import WebScript.Access
import WebScript.Browser.Delay
import WebScript.Browser.PostRoute
import WebScript.Url.Encoded

namespace WebScript.Browser

structure Arrival where
  status : Int
  url : String
  statusText : String
  deriving DecidableEq, Repr

/-- How a page behaves: what comes of going to an address, the requests that makes, a later
navigation, and what the page then shows. -/
structure PageBehaviour where
  goto : String → Except Breakdown (Option Arrival) := fun url => .ok (some ⟨200, url, "OK"⟩)
  requests : List PageRequest := []
  late : Except Breakdown (Option Arrival) := .error (.browser "Timeout")
  content : String := ""
  url : String := "about:blank"

/-- The parts of a running browser, and the stages of its launch. -/
inductive Part where
  | page
  | context
  | browser
  | driver
  deriving DecidableEq, Repr

inductive Event where
  | started
  | launched (headless : Bool) (arguments : List String)
  | contextOpened (userAgent : String)
  | timeoutSet (milliseconds : Int)
  | pageOpened
  | routed (pattern : String)
  | went (url : String)
  | continued (c : Continuation)
  | awaited (milliseconds : Int)
  | closed (part : Part)
  deriving DecidableEq, Repr

/-- The world a browser runs in: the pages to come, the parts that fail to close, and for each
launch to come the part that fails to start. Contexts are numbered as they open; `hosts` are those
that the pages so far were opened in. -/
structure World where
  pages : List PageBehaviour := []
  failClose : List Part := []
  failLaunch : List (Option Part) := []
  contexts : Nat := 0
  hosts : List Nat := []
  log : List Event := []

structure Settings where
  headless : Bool := true
  userAgent : String := defaultUserAgent
  timeout : Int := 30000
  deriving DecidableEq, Repr

/-- The parts that are running, the context by its number. -/
structure Running where
  driver : Bool := false
  browser : Bool := false
  context : Option Nat := none
  deriving DecidableEq, Repr

structure State where
  settings : Settings := {}
  running : Running := {}
  world : World := {}

abbrev Action (α : Type) := State → Except Breakdown α × State

namespace State

def note (e : Event) (s : State) : State :=
  { s with world := { s.world with log := s.world.log ++ [e] } }

/-- The part at which the launch that begins now fails. -/
def launchFault (s : State) : Option Part × State :=
  match s.world.failLaunch with
  | [] => (none, s)
  | fault :: rest => (fault, { s with world := { s.world with failLaunch := rest } })

def launchArguments : List String :=
  ["--no-sandbox", "--disable-setuid-sandbox"]

def failed {α : Type} (s : State) : Except Breakdown α × State :=
  (.error (.browser ""), s)

def openContext (s : State) : Nat × State :=
  let context := s.world.contexts
  let s := s.note (.contextOpened s.settings.userAgent)
  (context, { s with
    running := { s.running with context := some context }
    world := { s.world with contexts := context + 1 } })

/-- The context that all requests share. The browser is launched unless one is open; a part that has
started stays noted when a later one fails. -/
def ensureContext : Action Nat := fun s =>
  match s.running.context with
  | some context => (.ok context, s)
  | none =>
    let (fault, s) := s.launchFault
    if fault == some .driver then s.failed
    else
      let s := { s.note .started with running := { s.running with driver := true } }
      if fault == some .browser then s.failed
      else
        let s := { s.note (.launched s.settings.headless launchArguments) with
          running := { s.running with browser := true } }
        if fault == some .context then s.failed
        else
          let (context, s) := s.openContext
          (.ok context, s.note (.timeoutSet s.settings.timeout))

def closePart (part : Part) : Action Unit := fun s =>
  let s := s.note (.closed part)
  if s.world.failClose.contains part then s.failed else (.ok (), s)

/-- Closes a part if it is running. A failure to close it does not keep the others from being
closed. -/
def shutDown (part : Part) (running : Bool) (s : State) : State :=
  if running then
    match s.closePart part with
    | (.ok (), s) => s
    | (.error _, s) => s
  else s

/-- Closes what is running, the context first and the driver last, whatever fails to close. -/
def close (s : State) : State :=
  let parts := [(Part.context, s.running.context.isSome), (.browser, s.running.browser),
    (.driver, s.running.driver)]
  { parts.foldl (fun s (part, running) => s.shutDown part running) s with running := {} }

/-- The next page to come, opened in a context; a plain one when none is left. -/
def openPage (context : Nat) (s : State) : PageBehaviour × State :=
  let s := s.note .pageOpened
  let s := { s with world := { s.world with hosts := s.world.hosts ++ [context] } }
  match s.world.pages with
  | [] => ({}, s)
  | p :: rest => (p, { s with world := { s.world with pages := rest } })

/-- Ends a request: its page is closed, and a failure to close it is the outcome. -/
def closePage {α : Type} (outcome : Except Breakdown α) (s : State) : Except Breakdown α × State :=
  match s.closePart .page with
  | (.ok (), s) => (outcome, s)
  | (.error b, s) => (.error b, s)

/-- Lets the requests of a navigation continue through the route. -/
def routeAll (requests : List PageRequest) (route : PostRoute) (s : State) : State :=
  (route.handleAll requests).1.foldl (fun s c => s.note (.continued c)) s

/-- Waits for a later navigation, if the options ask for it. Where the browser fails in this, or the
navigation comes to nothing, the first answer stays in place. -/
def awaitLate (page : PageBehaviour) (options : List (String × Value))
    (arrival : Option Arrival) : Action (Option Arrival) := fun s =>
  match loadDelay options with
  | .error b => (.error b, s)
  | .ok none => (.ok arrival, s)
  | .ok (some delay) =>
    let s := s.note (.awaited delay)
    match page.late with
    | .ok (some late) => (.ok (some late), s)
    | .ok none => (.ok arrival, s)
    | .error (.browser _) => (.ok arrival, s)
    | .error b => (.error b, s)

def responseOf (page : PageBehaviour) : Option Arrival → Response
  | some a => ⟨a.status, a.url, page.content, some a.statusText⟩
  | none => ⟨0, page.url, page.content, none⟩

/-- A page sets out for an address. Where there is a route, it is set before and takes the requests
of the page. -/
def setOut (page : PageBehaviour) (url : String) (route : Option PostRoute) (s : State) : State :=
  match route with
  | none => s.note (.went url)
  | some route => ((s.note (.routed "**/*")).note (.went url)).routeAll page.requests route

/-- Goes to an address on an open page; `route` handles the page's requests if there is one. -/
def visit (page : PageBehaviour) (url : String) (options : List (String × Value))
    (route : Option PostRoute) : Action Response := fun s =>
  let s := setOut page url route s
  match page.goto url with
  | .error b => (.error b, s)
  | .ok arrival =>
    let (arrival, s) := awaitLate page options arrival s
    (arrival.map (responseOf page), s)

/-- A request on a new page, which is closed whatever comes of the visit. -/
def navigate (url : String) (options : List (String × Value)) (route : Option PostRoute) :
    Action Response := fun s =>
  match s.ensureContext with
  | (.error b, s) => (.error b, s)
  | (.ok context, s) =>
    let (page, s) := s.openPage context
    let (outcome, s) := visit page url options route s
    s.closePage outcome

def fetch (url : String) (options : List (String × Value)) : Action Response :=
  navigate url options none

/-- Goes to an address with a form's values as the body. -/
def submit (url : String) (values : Dict) (options : List (String × Value)) : Action Response :=
  navigate url options (some { body := Url.Encoded.encode values })

end State
end WebScript.Browser
