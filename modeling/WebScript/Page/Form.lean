import WebScript.Dict
import WebScript.Error
import WebScript.Html.Node
import WebScript.Text.Blank

namespace WebScript

open Html

def optionValue (option : Node) : String :=
  (option.attribute? "value").getD (Text.trim option.textContent)

/-- A form of a page, with the values that it would be submitted with. -/
structure Form where
  element : Node
  name : String
  clientId : String
  action : String
  values : Dict

namespace Form

/-- The name of a field; one without a name takes no part. -/
def fieldName? (field : Node) : Option String :=
  (field.attribute? "name").filter fun name => name != ""

def namedFields (element : String) (form : Node) : List (String × Node) :=
  (form.named element).filterMap fun field => (fieldName? field).map (·, field)

def isChoice (field : Node) : Bool :=
  ["checkbox", "radio"].contains (Text.lower ((field.attribute? "type").getD ""))

/-- What the inputs of one name contribute. The first of them decides whether they are choices, of
which only the checked ones count. -/
def inputValues (fields : List Node) : List String :=
  if fields.head?.any isChoice then
    (fields.filter fun f => (f.attribute? "checked").isSome).map fun f =>
      (f.attribute? "value").getD "on"
  else fields.map fun f => (f.attribute? "value").getD ""

def joined (values : List String) : String :=
  ",".intercalate values

/-- Puts the value of an input into the map, together with all others of its name. -/
def seedInput (fields : List (String × Node)) (d : Dict) (name : String) : Dict :=
  d.put name (joined (inputValues ((fields.filter (·.1 = name)).map (·.2))))

def seedArea (d : Dict) (area : String × Node) : Dict :=
  d.put area.1 area.2.leadingText

/-- A selection contributes its selected options, or the first of them where it takes only one. -/
def seedSelect (d : Dict) (select : String × Node) : Dict :=
  match (select.2.named "option").filter fun o => (o.attribute? "selected").isSome with
  | [] => d
  | first :: others =>
    if (select.2.attribute? "multiple").isSome then
      d.put select.1 (joined ((first :: others).map optionValue))
    else d.put select.1 (optionValue first)

/-- The values that a form holds as it stands. -/
def seeded (form : Node) : Dict :=
  let inputs := namedFields "input" form
  let d := (inputs.map (·.1)).foldl (seedInput inputs) []
  let d := (namedFields "textarea" form).foldl seedArea d
  (namedFields "select" form).foldl seedSelect d

def ofElement (element : Node) : Form where
  element
  name := (element.attribute? "name").getD ""
  clientId := (element.attribute? "id").getD ""
  action := (element.attribute? "action").getD ""
  values := seeded element

/-- The first selection of a name, without regard to case. -/
def select? (name : String) (form : Form) : Option Node :=
  (form.element.named "select").find? fun s =>
    Text.fold ((s.attribute? "name").getD "") = Text.fold name

/-- The value of the option of a selection that shows a text; options without a value are passed
over. -/
def valueByText (field text : String) (form : Form) : Except ScriptError String :=
  match form.select? field with
  | none => .error (.selectNotFound field)
  | some select =>
    let matching := (select.named "option").filter fun o =>
      Text.fold (Text.trim o.textContent) = Text.fold text
    match (matching.map optionValue).find? fun v => v != "" with
    | some value => .ok value
    | none => .error (.optionNotFound field text)

end Form
end WebScript
