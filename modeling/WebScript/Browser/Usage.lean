import WebScript.Browser.Accessor

namespace WebScript.Browser

/-- What an accessor is used for. A scope is entered and left; the uses inside it come before it is
left. -/
inductive Use where
  | fetch (url : String) (options : List (String × Value))
  | submit (url : String) (values : Dict) (options : List (String × Value))
  | close
  | scope

def Use.isRequest : Use → Bool
  | fetch .. | submit .. => true
  | close | scope => false

/-- A use, and the parts that fail to close in it. -/
structure Turn where
  use : Use
  failClose : List Part := []

namespace State

/-- An accessor that has not been used, with the pages to come. -/
def unused (settings : Settings) (pages : List PageBehaviour) : State :=
  { settings, world := { pages } }

def facing (failClose : List Part) (s : State) : State :=
  { s with world := { s.world with failClose } }

def use : Use → Action (Option Response)
  | .fetch url options, s =>
    let (result, s) := s.fetch url options
    (result.map some, s)
  | .submit url values options, s =>
    let (result, s) := s.submit url values options
    (result.map some, s)
  | .close, s => (.ok none, s.close)
  | .scope, s => (.ok none, s.close)

def take (t : Turn) : Action (Option Response) := fun s =>
  use t.use (s.facing t.failClose)

def after (turns : List Turn) (s : State) : State :=
  turns.foldl (fun s t => (s.take t).2) s

end State
end WebScript.Browser
