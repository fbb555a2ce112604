import WebScript.Dict

namespace WebScript

/-- The text of a setting, if it is set and not empty. -/
def filled? (setting : Option String) : Option String :=
  setting.filter fun s => s != ""

/-- How one output is taken from a page, and what it is expected to be. -/
structure Rule where
  name : String
  regex : Option String := none
  xpath : Option String := none
  attr : Option String := none
  multiple : Bool := false
  expected : Option String := none
  deriving DecidableEq, Repr

/-- A value for a field of a form: literal, or that of the option with a text. -/
structure Override where
  name : String
  value : Option String := none
  text : Option String := none
  deriving DecidableEq, Repr

/-- What fetching and submitting have in common: the outputs to take from the answer, the status
codes that are accepted, and options for the accessor. -/
structure Exchange where
  rules : List Rule := []
  accepted : List Int := [200]
  options : Dict := []
  deriving DecidableEq, Repr

/-- Which form of a page is meant; the first criterion that is set decides. -/
structure FormChoice where
  clientId : Option String := none
  formName : Option String := none
  action : Option String := none
  index : Option Int := none
  deriving DecidableEq, Repr

inductive Step where
  | fetch (url : String) (exchange : Exchange)
  | submit (choice : FormChoice) (overrides : List Override) (exchange : Exchange)
  | branch (property value : String) (inner : Step)
  | jump (target : String)
  deriving DecidableEq, Repr

structure Target where
  name : String
  steps : List Step := []
  deriving DecidableEq, Repr

structure Script where
  targets : List Target
  defaultTarget : Option String := none
  deriving DecidableEq, Repr

/-- Equality up to the order of options. -/
def Exchange.same (x y : Exchange) : Bool :=
  x.rules = y.rules && x.accepted = y.accepted && x.options.isPerm y.options

/-- Equality up to the order of options. -/
def Step.same : Step → Step → Bool
  | .fetch url x, .fetch url' x' => url = url' && x.same x'
  | .submit choice overrides x, .submit choice' overrides' x' =>
    choice = choice' && overrides = overrides' && x.same x'
  | .branch property value inner, .branch property' value' inner' =>
    property = property' && value = value' && inner.same inner'
  | .jump target, .jump target' => target = target'
  | _, _ => false

/-- Equality up to the order of options, which is what tells targets apart. -/
def Target.same (t u : Target) : Bool :=
  t.name = u.name && t.steps.length = u.steps.length &&
    (t.steps.zip u.steps).all fun p => p.1.same p.2

namespace Script

/-- The first target with a name, without regard to case. -/
def find? (name : String) (s : Script) : Option Target :=
  s.targets.find? fun t => Text.fold t.name = Text.fold name

end Script

def Step.jumpTarget? : Step → Option String
  | .jump target => some target
  | .branch _ _ inner => inner.jumpTarget?
  | _ => none

end WebScript
