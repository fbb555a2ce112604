import WebScript.Dict
import WebScript.Text.Find

namespace WebScript

/-- The values that placeholders stand for. -/
structure Scope where
  inputs : NameMap := ∅
  outputs : NameMap := ∅

namespace Template

/-- Where a placeholder takes its value from. -/
inductive Source where
  | outputs
  | inputs
  deriving DecidableEq, Repr

def Source.opener : Source → List Char
  | outputs => ['$', '\x7b']
  | inputs => ['$', '(']

def Source.closer : Source → Char
  | outputs => '\x7d'
  | inputs => ')'

/-- A placeholder in a text: its name, and the text on either side of it. -/
structure Placeholder where
  before : List Char
  source : Source
  name : List Char
  after : List Char
  deriving DecidableEq, Repr

/-- The placeholder that begins at the first opener of a kind, if a closer follows. -/
def firstOf (source : Source) (text : List Char) : Option Placeholder := do
  let (before, rest) ← Text.cutAt? source.opener text
  let (name, after) ← Text.cutAt? [source.closer] rest
  return { before, source, name, after }

def next? (text : List Char) : Option Placeholder :=
  match firstOf .outputs text, firstOf .inputs text with
  | some p, some q => if q.before.length < p.before.length then some q else some p
  | some p, none => some p
  | none, q => q

/-- The value of a name; missing names have none. -/
def value (scope : Scope) (source : Source) (name : List Char) : String :=
  let values := match source with
    | .outputs => scope.outputs
    | .inputs => scope.inputs
  (values.get? (.ofList name)).getD ""

/-- The text with a placeholder replaced by its value. -/
def Placeholder.fill (scope : Scope) (p : Placeholder) : List Char :=
  p.before ++ (value scope p.source p.name).toList ++ p.after

/-- The text without placeholders that the replacements lead to, if they come to an end. -/
def resolveList? (text : List Char) (s : Scope) : Option (List Char) :=
  match next? text with
  | none => some text
  | some p => some (p.fill s) >>= resolveList? (s := s)
partial_fixpoint

/-- The text that a template stands for. There is none where values bring each other in again and
again, so that the replacements never come to an end. -/
def resolve? (scope : Scope) (text : String) : Option String :=
  (resolveList? text.toList scope).map .ofList

end Template
end WebScript
