import WebScript.Page.Query
import WebScript.Pattern.Match
import WebScript.Pattern.Reading
import WebScript.Script.Basic

namespace WebScript

/-- Rules with their patterns and queries, each list in the order of the rules. -/
structure Extractor where
  rules : List Rule
  patterns : List (Rule × Pattern)
  queries : List (Rule × Query)

namespace Rule

def pattern? (rule : Rule) : Except Failure (Option (Rule × Pattern)) :=
  match filled? rule.regex with
  | none => .ok none
  | some text => match Pattern.ofText text with
    | .ok p => .ok (some (rule, p))
    | .error .malformed => .error (.script (.badRegex (Text.quoted text)))
    | .error .tooLarge => .error (.breakdown .tooLarge)
    | .error .badValue => .error (.breakdown (.badValue ""))

def badXPath (rule : Rule) : ScriptError :=
  .badXPath (Text.quoted (rule.xpath.getD "")) rule.name

def query? (rule : Rule) : Except Failure (Option (Rule × Query)) :=
  match filled? rule.xpath with
  | none => .ok none
  | some text => match Query.ofText text with
    | .ok q => .ok (some (rule, q))
    | .error .notAnExpression => .error (.script rule.badXPath)
    | .error .illegalCharacter => .error (.breakdown (.badValue ""))

/-- The value that a rule's pattern finds: what its group of the rule's name has matched, of the
first match or of all. -/
def patternValue? (rule : Rule) (p : Pattern) (text : Pattern.Subject) : Option String := do
  let group ← p.group? rule.name
  if rule.multiple then
    match p.findAll text with
    | [] => none
    | ms => return ",".intercalate (ms.map (Pattern.Match.text text group))
  else
    let m ← p.find text
    return m.text text group

def answerValue? (rule : Rule) : List Found → Except Failure (Option String)
  | [] => .ok none
  | first :: others =>
    if rule.multiple then do
      let values ← ((first :: others).mapM (Found.value rule.attr)).mapError .breakdown
      return some (",".intercalate values)
    else (some <$> first.value rule.attr).mapError .breakdown

/-- The value that a rule's query finds on a page. -/
def queryValue? (rule : Rule) (q : Query) (page : Page) : Except Failure (Option String) :=
  match page.ask q with
  | none => .error (.script rule.badXPath)
  | some found => rule.answerValue? found

end Rule

namespace Extractor

/-- Makes rules ready; all patterns come before the first query. -/
def ofRules (rules : List Rule) : Except Failure Extractor := do
  let patterns ← rules.mapM Rule.pattern?
  let queries ← rules.mapM Rule.query?
  return { rules, patterns := patterns.reduceOption, queries := queries.reduceOption }

def note (rule : Rule) (value : Option String) (values : NameMap) : NameMap :=
  match value with
  | some v => values.put rule.name v
  | none => values

/-- The values that queries find, on top of others. -/
def answers (page : Page) : List (Rule × Query) → NameMap → Except Failure NameMap
  | [], values => .ok values
  | (rule, q) :: rest, values => do
    let value ← rule.queryValue? q page
    answers page rest (note rule value values)

/-- The values on a page. Queries come after all patterns, so that they have the last word. -/
def extract (page : Page) (x : Extractor) : Except Failure NameMap :=
  let text := page.html.toList.toArray
  let matched := x.patterns.foldl (fun values (rule, p) =>
    note rule (rule.patternValue? p text) values) ∅
  answers page x.queries matched

end Extractor

/-- An expectation that a value does not meet. -/
structure Mismatch where
  expected : String
  actual : String
  deriving DecidableEq, Repr

def Mismatch.message (m : Mismatch) : String :=
  s!"Expected:{m.expected}, but the actual value is: {m.actual}"

/-- The expectation of a rule that the values do not meet. Case does not matter, and a missing value
is empty. -/
def Rule.mismatch? (values : NameMap) (rule : Rule) : Option Mismatch := do
  let expected ← filled? rule.expected
  let actual := (values.get? rule.name).getD ""
  if Text.sameFolded expected actual then none else return ⟨expected, actual⟩

/-- The first expectation that the values do not meet. -/
def Extractor.mismatch? (values : NameMap) (x : Extractor) : Option Mismatch :=
  x.rules.findSome? (Rule.mismatch? values)

end WebScript
