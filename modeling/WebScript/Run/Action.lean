import WebScript.Page.Extraction

namespace WebScript

/-- A step that is ready to be performed. -/
inductive Action where
  | fetch (url : String) (exchange : Exchange) (extractor : Extractor)
  | submit (choice : FormChoice) (overrides : List Override) (exchange : Exchange)
      (extractor : Extractor)
  | branch (property value : String) (inner : Action)
  | jump (target : String)

def Action.ofStep : Step → Except Failure Action
  | .fetch url x => do return .fetch url x (← Extractor.ofRules x.rules)
  | .submit choice overrides x => do
    return .submit choice overrides x (← Extractor.ofRules x.rules)
  | .branch property value inner => do return .branch property value (← ofStep inner)
  | .jump target => .ok (.jump target)

/-- Makes the steps of a target ready. -/
def Target.actions (t : Target) : Except Failure (List Action) :=
  t.steps.mapM Action.ofStep

end WebScript
