import WebScript.Http.Status
import WebScript.Run.Action
import WebScript.Run.Session

namespace WebScript

variable {σ : Type}

def fetchRequest (url : String) (x : Exchange) (s : Session σ) :
    Option (Except Failure Request) :=
  (Template.resolve? s.scope url).map fun url => .ok (.fetch url x.options)

/-- The submission of a form with its merged values, from the page that a state is on. -/
def submission (form : Form) (values : Dict) (x : Exchange) (s : Session σ) :
    Except Failure Request := do
  let url ← (form.target ((s.page.map Page.url).getD "")).mapError .breakdown
  return .submit url values x.options

/-- The submission of a form of the current page. -/
def submitRequest (choice : FormChoice) (overrides : List Override) (x : Exchange) (s : Session σ) :
    Option (Except Failure Request) :=
  match choice.select s.page with
  | .error e => some (.error (.script e))
  | .ok form => (form.merged overrides s.scope).map fun
    | .error e => .error (.script e)
    | .ok values => submission form values x s

/-- A failed outcome, unless the script is at fault. -/
def settle {α : Type} : Failure → Except Failure (Except Outcome α)
  | .script e => .error (.script e)
  | .breakdown b => .ok (.error (.failed b.report))

def accept (accepted : List Int) (r : Response) : Except Outcome Page :=
  if !accepted.contains r.status then .error (.failed (Http.statusName r.status))
  else match Page.ofText r.url r.html with
    | .ok page => .ok page
    | .error b => .error (.failed b.report)

/-- Sends a request, if there is one, and takes the page it brings. -/
def obtain (a : Accessor σ) (accepted : List Int) (request : Except Failure Request)
    (s : Session σ) : Ended σ (Except Outcome Page) :=
  match request with
  | .error f => (settle f, s)
  | .ok r => match s.send a r with
    | (.error f, s) => (settle f, s)
    | (.ok response, s) => (.ok (accept accepted response), s)

/-- Takes the outputs from a new page. They count also where they are not what was expected. -/
def takeOutputs (x : Extractor) (page : Page) (s : Session σ) : Ended σ Outcome :=
  let s := { s with page := some page }
  match x.extract page with
  | .error f => (.error f, s)
  | .ok values =>
    let s := { s.note (.extracted values) with outputs := s.outputs.putAll values.pairs }
    match x.mismatch? values with
    | some m => (.ok (.failed m.message), s)
    | none => (.ok .done, s)

/-- The exchange of a request and the page it brings. -/
def exchange (a : Accessor σ) (x : Exchange) (extractor : Extractor)
    (request : Except Failure Request) (s : Session σ) : Ended σ Outcome :=
  match obtain a x.accepted request s with
  | (.error f, s) => (.error f, s)
  | (.ok (.error outcome), s) => (.ok outcome, s)
  | (.ok (.ok page), s) => takeOutputs extractor page s

/-- What an action does, before the journal notes how it ended. -/
def carryOut (a : Accessor σ) : Action → Run σ Outcome
  | .fetch url x extractor, s =>
    (fetchRequest url x s).map fun request => exchange a x extractor request s
  | .submit choice overrides x extractor, s =>
    (submitRequest choice overrides x s).map fun request => exchange a x extractor request s
  | .branch property value inner, s =>
    match Template.resolve? s.scope property with
    | none => none
    | some actual =>
      if Text.sameFolded actual value then carryOut a inner s else some (.ok .done, s)
  | .jump target, s =>
    (Template.resolve? s.scope target).map fun name => (.ok (.jump name), s)

def noted : Ended σ Outcome → Ended σ Outcome
  | (.ok outcome, s) => (.ok outcome, s.note (.performed outcome))
  | (.error f, s) => (.error f, s)

def perform (a : Accessor σ) (action : Action) : Run σ Outcome := fun s =>
  (carryOut a action s).map noted

end WebScript
