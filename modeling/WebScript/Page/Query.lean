import WebScript.Html.Writer
import WebScript.Page.Basic
import WebScript.Value.Show
import WebScript.XPath.Eval
import WebScript.XPath.Reading

namespace WebScript

open Html

inductive QueryFault where
  | illegalCharacter
  | notAnExpression
  deriving DecidableEq, Repr

/-- Characters that no document can hold. -/
def isIllegal (c : Char) : Bool :=
  let n := c.toNat
  (n < 0x20 && !(c == '\t' || c == '\n' || c == '\r')) || n == 0xFFFE || n == 0xFFFF

structure Query where
  expr : XPath.Expr

def Query.ofText (text : String) : Except QueryFault Query :=
  if text.toList.any isIllegal then .error .illegalCharacter
  else match XPath.Expr.ofText? text with
    | some e => .ok ⟨e⟩
    | none => .error .notAnExpression

inductive Found where
  | element (node : Node)
  | comment (content : String)
  | text (content : String)
  | declaration (name address : String)

namespace Page

/-- What a node of the document's tree counts as; the document itself is no answer. -/
def foundAt (t : XPath.Tree) (i : Nat) : Option Found :=
  let x := t.item i
  match x.kind with
  | .document => none
  | .element => some (.element x.node)
  | .comment => some (.comment x.content)
  | .namespace => some (.declaration x.name x.content)
  | .attribute => some (.text x.content)
  | .text => some (.text x.content)

/-- The answers of a page to a query, if it can be evaluated. A page without a document has none. -/
def ask (q : Query) (page : Page) : Option (List Found) :=
  match page.document with
  | none => some []
  | some document =>
    let t := XPath.Tree.ofDocument document
    (XPath.eval t ⟨t.rootElement, none⟩ q.expr).map fun
      | .nodes ns => ns.filterMap (foundAt t)
      | .number x => [.text (floatText x)]
      | .text s => [.text s]
      | .bool b => [.text (Value.bool b).asText]

end Page

namespace Found

/-- The markup inside an element; text before its first element or comment stands as it is. -/
def innerMarkup (n : Node) : String :=
  let raw := n.hasName "script" || n.hasName "style"
  let written := match n.children with
    | .text content :: rest => content.toList ++ Writer.writeMarkup raw rest
    | nodes => Writer.writeMarkup raw nodes
  Text.trim (.ofList written)

/-- The name of an attribute that a selector asks for. A space in braces before it has to be empty
for an attribute to be found. -/
def attributeName (selector : String) : Except Breakdown (Option String) :=
  if selector.toList.any isIllegal then .error (.badValue "")
  else match selector.toList with
    | '\x7b' :: rest => match Text.cutAt? ['\x7d'] rest with
      | none => .error (.badValue "Invalid tag name")
      | some (_, []) => .error (.badValue "Empty tag name")
      | some ([], name) => .ok (some (.ofList name))
      | some _ => .ok none
    | _ => .ok (some selector)

/-- The text that an answer stands for. Of an element it is the markup inside it, its text, or one
of its attributes, as the selector says. -/
def value (selector : Option String) : Found → Except Breakdown String
  | element n =>
    let wanted := selector.getD ""
    match Text.lower wanted with
    | "html()" => .ok (innerMarkup n)
    | "text()" => .ok (Text.trim n.textContent)
    | "" => .ok (Text.trim n.textContent)
    | _ => do
      let name ← attributeName wanted
      return (name.bind n.attribute?).getD ""
  | comment content => .ok (Text.trim ("<!--" ++ content ++ "-->"))
  | text content => .ok (Text.trim content)
  | declaration name address => .ok (Value.pair (.text name) (.text address)).asText

end Found
end WebScript
