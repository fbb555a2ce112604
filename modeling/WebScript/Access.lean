import WebScript.Dict
import WebScript.Error

namespace WebScript

/-- A request for a page, or the submission of form values. -/
inductive Request where
  | fetch (url : String) (options : Dict)
  | submit (url : String) (values : Dict) (options : Dict)
  deriving DecidableEq, Repr

/-- An answer: the status, the address after redirects, and the page. -/
structure Response where
  status : Int
  url : String
  html : String
  description : Option String := none
  deriving DecidableEq, Repr

/-- What answers requests, with a state of its own. -/
structure Accessor (σ : Type) where
  send : Request → σ → Except Failure Response × σ

/-- The agent that requests name where none is configured. -/
def defaultUserAgent : String :=
  "Mozilla/5.0 (Windows NT 10.0; Win64; x64) AppleWebKit/537.36 " ++
    "(KHTML, like Gecko) Chrome/120.0.0.0 Safari/537.36"

end WebScript
