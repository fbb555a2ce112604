import WebScript.Access

namespace WebScript.Http

/-- What a server sends back. -/
structure Reply where
  status : Int
  reason : Option String := none
  url : String
  text : String := ""
  cookies : Dict := []

/-- A request as it goes out; redirects are always followed. -/
structure Sent where
  method : String
  url : String
  data : Option Dict

/-- A session: what it sends and what it has received. The timeout is only passed on. -/
structure Session where
  userAgent : String := defaultUserAgent
  cookies : Dict := []
  sent : List Sent := []

/-- The headers that every request of the session carries. -/
def Session.headers (s : Session) : Dict :=
  [("User-Agent", s.userAgent)]

def Sent.ofRequest : Request → Sent
  | .fetch url _ => ⟨"GET", url, none⟩
  | .submit url values _ => ⟨"POST", url, some (.ofPairs values)⟩

/-- The outcome of a request to which the given reply or failure comes back. -/
def Session.exchange (request : Request) (reply : Except Failure Reply) (s : Session) :
    Except Failure Response × Session :=
  let s := { s with sent := s.sent ++ [.ofRequest request] }
  match reply with
  | .error f => (.error f, s)
  | .ok r =>
    (.ok ⟨r.status, r.url, r.text, r.reason⟩,
      { s with cookies := r.cookies.foldl (fun d (n, v) => d.put n v) s.cookies })

end WebScript.Http
