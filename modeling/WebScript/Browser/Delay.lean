import WebScript.Error
import WebScript.Value.Whole

namespace WebScript.Browser

def delayOption (options : List (String × Value)) : Option Value :=
  (options.lookup "load_delay").or (options.lookup "loadDelay")

/-- The milliseconds to wait, if the options ask for a positive whole number of them. -/
def loadDelay (options : List (String × Value)) : Except Breakdown (Option Int) :=
  match delayOption options with
  | none => .ok none
  | some v => match v.whole with
    | .ok n => .ok (if n > 0 then some n else none)
    | .error .notANumber => .ok none
    | .error .infinite => .error .tooLarge

end WebScript.Browser
