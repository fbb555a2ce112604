import WebScript.Dict
import WebScript.Text.Quoted

namespace WebScript.Display

structure Document where
  ok : Bool
  message : Option String
  target : String
  outputs : List (String × String)
  deriving DecidableEq, Repr

/-- What a document says once it has been read back: halves of characters are joined, and outputs
whose names become equal are one. -/
def Document.joined (d : Document) : Document :=
  let said (s : String) : String := .ofList (Text.joined s.toList)
  { d with
    message := d.message.map said
    target := said d.target
    outputs := Dict.ofPairs (d.outputs.map fun (name, value) => (said name, said value)) }

def Document.isWhole (d : Document) : Bool :=
  let texts := d.target :: d.message.toList ++ d.outputs.flatMap fun (name, value) => [name, value]
  texts.all fun s => Text.isWhole s.toList

/-- A character inside of a JSON text. -/
def jsonChar (c : Char) : List Char :=
  match c with
  | '"' => ['\\', '"']
  | '\\' => ['\\', '\\']
  | '\n' => ['\\', 'n']
  | '\r' => ['\\', 'r']
  | '\t' => ['\\', 't']
  | c =>
    if c.toNat = 8 then ['\\', 'b']
    else if c.toNat = 12 then ['\\', 'f']
    else if c.toNat < 0x20 then '\\' :: 'u' :: Text.hexDigits 4 c.toNat
    else [c]

def jsonText (s : String) : String :=
  .ofList ('"' :: s.toList.flatMap jsonChar ++ ['"'])

def jsonOutputs (outputs : List (String × String)) : String :=
  let entry (o : String × String) : String := "    " ++ jsonText o.1 ++ ": " ++ jsonText o.2
  if outputs.isEmpty then "\x7b\x7d"
  else "\x7b\n" ++ ",\n".intercalate (outputs.map entry) ++ "\n  \x7d"

def Document.text (d : Document) : String :=
  let message := match d.message with
    | some m => jsonText m
    | none => "null"
  "\x7b\n  \"ok\": " ++ (if d.ok then "true" else "false") ++ ",\n  \"message\": " ++ message ++
    ",\n  \"target\": " ++ jsonText d.target ++ ",\n  \"outputs\": " ++ jsonOutputs d.outputs ++
    "\n\x7d"

end WebScript.Display
