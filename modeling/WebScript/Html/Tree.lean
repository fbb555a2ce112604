import WebScript.Html.Closing
import WebScript.Html.Node
import WebScript.Html.Token

namespace WebScript.Html

/-- An element whose end has not been met; its children so far, the last one first. -/
structure OpenElement where
  name : String
  attributes : List (String × Option String)
  children : List Node

def OpenElement.close (e : OpenElement) : Node :=
  .element e.name e.attributes e.children.reverse

/-- A tree in progress: the open elements, the innermost first, and the finished nodes beside the
root, the last one first. -/
structure Builder where
  stack : List OpenElement := []
  top : List Node := []
  hadHead : Bool := false
  hadBody : Bool := false
  misplaced : Nat := 0

namespace Builder

def current? (b : Builder) : Option String :=
  b.stack.head?.map (·.name)

def isOpen (name : String) (b : Builder) : Bool :=
  b.stack.any (·.name == name)

def add (n : Node) (b : Builder) : Builder :=
  match b.stack with
  | [] => { b with top := n :: b.top }
  | e :: outer => { b with stack := { e with children := n :: e.children } :: outer }

/-- Adds text to the innermost element, after text as its continuation. -/
def addText (content : String) (b : Builder) : Builder :=
  match b.stack with
  | [] => b
  | e :: outer =>
    let children := match e.children with
      | .text before :: others => .text (before ++ content) :: others
      | others => .text content :: others
    { b with stack := { e with children } :: outer }

def push (name : String) (attributes : List (String × Option String)) (b : Builder) : Builder :=
  { b with
    stack := ⟨name, attributes, []⟩ :: b.stack
    hadHead := b.hadHead || name == "head" || name == "body"
    hadBody := b.hadBody || name == "body" }

/-- Ends the innermost element. -/
def pop (b : Builder) : Builder :=
  match b.stack with
  | [] => b
  | e :: outer => add e.close { b with stack := outer }

/-- Ends the innermost elements as long as the test holds. -/
def popWhile (test : String → Bool) : (stack : List OpenElement) → Builder → Builder
  | [], b => b
  | e :: outer, b => if test e.name then popWhile test outer b.pop else b

/-- Ends the elements that a start tag does not leave open. -/
def endFor (tag : String) (b : Builder) : Builder :=
  b.popWhile (isEndedBy tag) b.stack

def isHeadContent (tag : String) : Bool :=
  ["script", "style", "meta", "link", "title", "base"].contains tag

/-- Supplies the root, and the head or the body, where a tag or text needs them. -/
def supply (tag : String) (b : Builder) : Builder :=
  if tag == "html" then b
  else
    let b := if b.stack.isEmpty then b.push "html" [] else b
    if tag == "body" || tag == "head" then b
    else if b.stack.length ≤ 1 && isHeadContent tag then
      if b.hadHead then b else b.push "head" []
    else if ["noframes", "frame", "frameset"].contains tag then b
    else if b.hadBody || b.isOpen "body" || b.isOpen "head" then b
    else b.push "body" []

/-- Text outside of the root, or in the root or the head itself, makes a body necessary; white space
before it stays where it is. -/
def text (content : List Char) (b : Builder) : Builder :=
  if [none, some "html", some "head"].contains b.current? then
    let (blank, rest) := content.span Scan.isSpace
    let b := if blank.isEmpty then b else b.addText (.ofList blank)
    if rest.isEmpty then b
    else
      let b := if b.current? == some "head" then b.endFor "p" else b
      (b.supply "p").addText (.ofList rest)
  else b.addText (.ofList content)

/-- The attributes as they are kept: one that stands for itself has its name as its value. -/
def keptAttributes (attributes : List (String × Option String)) : List (String × Option String) :=
  attributes.map fun (name, value) =>
    (name, if value.isNone && booleanAttributes.contains name then some name else value)

/-- Whether the root, the head or the body would begin where none can. -/
def isMisplaced (tag : String) (b : Builder) : Bool :=
  (tag == "html" && !b.stack.isEmpty) || (tag == "head" && b.stack.length != 1) ||
    (tag == "body" && b.isOpen "body")

def startTag (tag : String) (attributes : List (String × Option String)) (selfClosing : Bool)
    (b : Builder) : Builder :=
  let b := (b.endFor tag).supply tag
  if b.isMisplaced tag then { b with misplaced := b.misplaced + 1 }
  else
    let b := b.push tag (keptAttributes attributes)
    if selfClosing || voidElements.contains tag then b.pop else b

/-- Whether an end tag reaches its element: no element of a higher rank stands between. -/
def reaches (tag : String) : List OpenElement → Bool
  | [] => false
  | e :: outer => e.name == tag || (endRank e.name ≤ endRank tag && reaches tag outer)

/-- An end tag ends its element and those inside it. One that answers a misplaced start tag, or that
reaches no element, is passed over. -/
def endTag (tag : String) (b : Builder) : Builder :=
  if b.misplaced > 0 && ["html", "body", "head"].contains tag then
    { b with misplaced := b.misplaced - 1 }
  else if b.stack.any (·.name == tag) && reaches tag b.stack then
    (b.popWhile (· != tag) b.stack).pop
  else b

def token (b : Builder) : Token → Builder
  | .text content => b.text content
  | .raw content => if content.isEmpty then b else b.addText (.ofList content)
  | .comment content => b.add (.comment (.ofList content))
  | .startTag name attributes selfClosing => b.startTag name attributes selfClosing
  | .endTag name => b.endTag name
  | .doctype => b

/-- The nodes beside the root once all elements have ended. -/
def finish (b : Builder) : List Node :=
  (b.popWhile (fun _ => true) b.stack).top.reverse

end Builder

/-- The top nodes of a page: the root element and the comments around it. -/
def nodesOf (page : String) : List Node :=
  ((Token.ofText page.toList).foldl Builder.token {}).finish

end WebScript.Html
