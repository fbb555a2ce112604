import WebScript.Dict

namespace WebScript.Browser

structure PageRequest where
  method : String := "GET"
  navigation : Bool := true
  headers : Dict := []
  deriving DecidableEq, Repr

/-- How a page's request continues. -/
inductive Continuation where
  | unchanged
  | post (body : String) (headers : Dict)
  deriving DecidableEq, Repr

/-- A form body, and whether a request has taken it. -/
structure PostRoute where
  body : String
  applied : Bool := false
  deriving DecidableEq, Repr

def formContentType : String :=
  "application/x-www-form-urlencoded"

/-- Lets a request continue; the first navigation by GET takes the body. -/
def PostRoute.handle (r : PageRequest) (p : PostRoute) : Continuation × PostRoute :=
  if p.applied || r.method != "GET" || !r.navigation then (.unchanged, p)
  else (.post p.body (r.headers.put "content-type" formContentType), { p with applied := true })

/-- Lets requests continue in turn. -/
def PostRoute.handleAll : List PageRequest → PostRoute → List Continuation × PostRoute
  | [], p => ([], p)
  | r :: rest, p =>
    let (c, p) := p.handle r
    let (cs, p) := handleAll rest p
    (c :: cs, p)

end WebScript.Browser
