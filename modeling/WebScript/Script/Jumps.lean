import WebScript.Script.Basic
import WebScript.Template

namespace WebScript

def Template.hasOpener (text : String) : Bool :=
  Text.contains Template.Source.inputs.opener text.toList ||
    Text.contains Template.Source.outputs.opener text.toList

namespace Script

/-- Whether a jump target is known to be missing; one with a placeholder is not. -/
def isMissing (s : Script) (name : String) : Bool :=
  !Template.hasOpener name && (s.find? name).isNone

/-- The jumps to targets that are not there, each with the target it stands in. -/
def unresolvedJumps (s : Script) : List (String × String) :=
  s.targets.flatMap fun t =>
    ((t.steps.filterMap Step.jumpTarget?).filter s.isMissing).map (t.name, ·)

end Script
end WebScript
