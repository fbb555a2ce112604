import WebScript.Page.Basic
import WebScript.Script.Basic
import WebScript.Template
import WebScript.Url.Split

namespace WebScript

/-- The first form for which an attribute has a value, without regard to case. -/
def Page.formBy (criterion : String) (read : Form → String) (wanted : String) (page : Page) :
    Except ScriptError Form :=
  match page.forms.find? fun f => Text.fold (read f) = Text.fold wanted with
  | some form => .ok form
  | none => .error (.formNotFound (.noMatch criterion wanted))

def FormChoice.select (choice : FormChoice) (page : Option Page) : Except ScriptError Form :=
  match page with
  | none => .error (.formNotFound .noPage)
  | some page =>
    match filled? choice.clientId, filled? choice.formName, filled? choice.action with
    | some id, _, _ => page.formBy "ClientID" Form.clientId id
    | none, some name, _ => page.formBy "FormName" Form.name name
    | none, none, some action => page.formBy "Action" Form.action action
    | none, none, none =>
      let index := choice.index.getD 0
      let outOfRange : Except ScriptError Form :=
        .error (.formNotFound (.outOfRange index page.forms.length))
      if index < 0 then outOfRange
      else match page.forms[index.toNat]? with
        | some form => .ok form
        | none => outOfRange

/-- The template that an override takes its value from, if it gives one. A literal value comes
before the text of an option. -/
def Override.template? (o : Override) : Option String :=
  (filled? o.value).or (filled? o.text)

namespace Form

/-- The spelling of a name among those in use: the last one that differs at most in case, or else
its own. -/
def spelling (names : List String) (name : String) : String :=
  (names.reverse.find? fun n => Text.fold n = Text.fold name).getD name

/-- The names by which overrides find their fields: those of the form and, first come, those of
earlier overrides. -/
def noteName (names : List String) (name : String) : List String :=
  if names.any fun n => Text.fold n = Text.fold name then names else names ++ [name]

/-- The value that an override gives to a field, if it gives one. -/
def given? (form : Form) (scope : Scope) (field : String) (o : Override) :
    Option (Except ScriptError (Option String)) :=
  match o.template? with
  | none => some (.ok none)
  | some template => (Template.resolve? scope template).map fun v =>
    if (filled? o.value).isSome then .ok (some v) else (form.valueByText field v).map some

/-- Applies overrides in turn. -/
def override (form : Form) (scope : Scope) :
    (names : List String) → List Override → Dict → Option (Except ScriptError Dict)
  | _, [], d => some (.ok d)
  | names, o :: rest, d =>
    let field := spelling names o.name
    match form.given? scope field o with
    | none => none
    | some (.error e) => some (.error e)
    | some (.ok v) =>
      form.override scope (noteName names o.name) rest (v.elim d fun v => d.put field v)

/-- The values a form is submitted with: its own with the overrides applied. -/
def merged (form : Form) (overrides : List Override) (scope : Scope) :
    Option (Except ScriptError Dict) :=
  form.override scope (form.values.map (·.1)) overrides form.values

def target (form : Form) (pageUrl : String) : Except Breakdown String :=
  (Url.formTarget pageUrl form.action).mapError fun f => .badValue f.message

end Form
end WebScript
