namespace WebScript

/-- The parts of a script document, as messages name them. -/
inductive Part where
  | document
  | script
  | targets
  | target (index : Nat)
  | actions (target : String)
  | parameters (kind : String)
  | outputs
  | output (index : Nat)
  | values
  | value (index : Nat)
  | options
  deriving DecidableEq, Repr

def Part.name : Part → String
  | document => "Script document"
  | script => "'script'"
  | targets => "'targets'"
  | target i => s!"targets[{i}]"
  | actions t => s!"target '{t}' actions"
  | parameters k => s!"'{k}' parameters"
  | outputs => "'outputs'"
  | output i => s!"outputs[{i}]"
  | values => "'values'"
  | value i => s!"values[{i}]"
  | options => "'options'"

/-- Why a document is no script. -/
inductive LoadError where
  | notYaml
  | noFile (path : String)
  | notAMapping (part : Part) (found : String)
  | notAList (part : Part) (found : String)
  | noTargets
  | targetWithoutName
  | withoutName (part : Part)
  | notAnAction (shown : String)
  | missingField (kind field : String)
  | branchWithoutAction
  | badFormIndex (shown : String)
  | badStatusCodes (shown : String)
  deriving DecidableEq, Repr

def LoadError.message : LoadError → String
  | notYaml => "YAML parse error"
  | noFile path => s!"Script file not found: {path}"
  | notAMapping part found => s!"{part.name} must be a mapping, got {found}"
  | notAList part found => s!"{part.name} must be a list, got {found}"
  | noTargets => "Script defines no targets"
  | targetWithoutName => "Target is missing required field 'name'"
  | withoutName part => s!"{part.name} is missing required field 'name'"
  | notAnAction shown =>
    s!"Action must be a single-key mapping of kind to parameters, got: {shown}"
  | missingField kind field => s!"'{kind}' action is missing required field '{field}'"
  | branchWithoutAction => "'branch' action requires exactly one nested 'action'"
  | badFormIndex shown => s!"Invalid form_index: {shown}"
  | badStatusCodes shown => s!"Invalid status code list: {shown}"

/-- Why a page has no form to submit. -/
inductive FormError where
  | noPage
  | noMatch (criterion wanted : String)
  | outOfRange (index : Int) (count : Nat)
  deriving DecidableEq, Repr

def FormError.message : FormError → String
  | noPage => "No page has been fetched yet, so there is no form to submit"
  | noMatch criterion wanted => s!"Cannot find a form by {criterion}: {wanted}"
  | outOfRange index count => s!"Form index is out of range: {index} (page has {count} form(s))"

inductive ErrorKind where
  | script
  | load
  | unknownAction
  | duplicateTarget
  | missingTarget
  | targetNotFound
  | jumpDepth
  | formNotFound
  | selectNotFound
  | optionNotFound
  | outputRule
  deriving DecidableEq, Repr

def ErrorKind.name : ErrorKind → String
  | script => "ScriptError"
  | load => "ScriptLoadError"
  | unknownAction => "UnknownActionError"
  | duplicateTarget => "DuplicateTargetError"
  | missingTarget => "MissingTargetError"
  | targetNotFound => "TargetNotFoundError"
  | jumpDepth => "JumpDepthExceededError"
  | formNotFound => "FormNotFoundError"
  | selectNotFound => "SelectNotFoundError"
  | optionNotFound => "OptionNotFoundError"
  | outputRule => "InvalidOutputRuleError"

/-- A fault of a script, or of a script on the page it has reached. An accessor may raise one of its
own, with a text of its own. -/
inductive ScriptError where
  | load (e : LoadError)
  | unknownAction (kind : String)
  | duplicateTarget (name : String)
  | missingTarget
  | entryNotFound (name : String)
  | jumpTargetNotFound (name : String)
  | jumpTooDeep (caller callee : String) (limit : Int)
  | formNotFound (e : FormError)
  | selectNotFound (field : String)
  | optionNotFound (field text : String)
  | badRegex (shown : String)
  | badXPath (shown rule : String)
  | raised (kind : ErrorKind) (message : String)
  deriving DecidableEq, Repr

namespace ScriptError

def kind : ScriptError → ErrorKind
  | load _ => .load
  | unknownAction _ => .unknownAction
  | duplicateTarget _ => .duplicateTarget
  | missingTarget => .missingTarget
  | entryNotFound _ => .targetNotFound
  | jumpTargetNotFound _ => .targetNotFound
  | jumpTooDeep _ _ _ => .jumpDepth
  | formNotFound _ => .formNotFound
  | selectNotFound _ => .selectNotFound
  | optionNotFound _ _ => .optionNotFound
  | badRegex _ => .outputRule
  | badXPath _ _ => .outputRule
  | raised k _ => k

def message : ScriptError → String
  | load e => e.message
  | unknownAction k => s!"Unknown action kind: {k}"
  | duplicateTarget n => s!"Duplicate target name: {n}"
  | missingTarget => "No target is specified."
  | entryNotFound n => s!"target cannot be found: {n}"
  | jumpTargetNotFound n => s!"jump target cannot be found: {n}"
  | jumpTooDeep caller callee limit =>
    s!"Jump from {caller} to {callee} exceeds the maximum depth of {limit}"
  | formNotFound e => e.message
  | selectNotFound field => s!"the select with the name {field} cannot be found."
  | optionNotFound field text =>
    s!"the select {field} doesn't have a option with the text '{text}'."
  | badRegex shown => s!"Invalid regex {shown}"
  | badXPath shown rule => s!"Invalid XPath {shown} for output {rule}"
  | raised _ m => m

end ScriptError

/-- A failure that no rule about scripts foresees. One of a collaborator has a kind and a text of
its own. -/
inductive Breakdown where
  | badValue (message : String)
  | tooLarge
  | emptyNumber
  | unknownTruthValue
  | notATimestamp
  | emptyPage
  | browser (message : String)
  | directory (path : String)
  | remote (kind message : String)
  deriving DecidableEq, Repr

/-- What a failed step reports: the text of the failure, or its kind where it has none. -/
def Breakdown.report : Breakdown → String
  | badValue m => if m.isEmpty then "ValueError" else m
  | tooLarge => "cannot convert float infinity to integer"
  | emptyNumber => "string index out of range"
  | unknownTruthValue => "unknown truth value"
  | notATimestamp => "not a timestamp"
  | emptyPage => "Document is empty"
  | browser m => if m.isEmpty then "Error" else m
  | directory path => s!"Is a directory: {path}"
  | remote kind m => if m.isEmpty then kind else m

/-- Whatever ends an operation without a result. -/
inductive Failure where
  | script (e : ScriptError)
  | breakdown (b : Breakdown)
  deriving DecidableEq, Repr

end WebScript
