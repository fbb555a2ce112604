import WebScript.Page.Basic
import WebScript.XPath.Expr

namespace WebScript.XPath

open Html

inductive Kind where
  | document
  | element
  | namespace
  | attribute
  | text
  | comment
  deriving DecidableEq, Repr

/-- Whether nodes of a kind belong to an element without being content of it. -/
def Kind.isAttached : Kind → Bool
  | .namespace | .attribute => true
  | _ => false

/-- A node with its neighbours by number; `past` is the first number after its content. -/
structure Item where
  kind : Kind
  name : String := ""
  content : String := ""
  parent : Option Nat := none
  namespaces : List Nat := []
  attributes : List Nat := []
  children : List Nat := []
  past : Nat := 0
  node : Node := .text ""

/-- The nodes of a document by their numbers. -/
structure Tree where
  items : Array Item

namespace Tree

/-- The prefix that is declared at every element. -/
def commonPrefix : String := "xml"

def commonNamespace : String := "http://www.w3.org/XML/1998/namespace"

def namespaceItem (owner : Nat) : Item :=
  { kind := .namespace, name := commonPrefix, content := commonNamespace, parent := some owner
    past := owner + 2 }

def attributeItem (owner at_ : Nat) (entry : String × Option String) : Item :=
  { kind := .attribute, name := entry.1, content := entry.2.getD "", parent := some owner
    past := at_ + 1 }

def attributeItems (owner : Nat) : (start : Nat) → List (String × Option String) → List Item
  | _, [] => []
  | start, e :: rest => attributeItem owner start e :: attributeItems owner (start + 1) rest

mutual

def layOut (parent start : Nat) (n : Node) : List Item :=
  match n with
  | .text content =>
    [{ kind := .text, content, parent := some parent, past := start + 1, node := .text content }]
  | .comment content =>
    [{ kind := .comment, content, parent := some parent, past := start + 1
       node := .comment content }]
  | .element name attributes nodes =>
    let attributeList := attributeItems start (start + 2) attributes
    let first := start + 2 + attributes.length
    let (inner, children) := layOutAll start first nodes
    { kind := .element, name, parent := some parent, namespaces := [start + 1]
      attributes := List.range' (start + 2) attributes.length, children
      past := first + inner.length, node := .element name attributes nodes } ::
      namespaceItem start :: (attributeList ++ inner)

/-- Nodes side by side, and the numbers they get. -/
def layOutAll (parent start : Nat) (ns : List Node) : List Item × List Nat :=
  match ns with
  | [] => ([], [])
  | n :: rest =>
    let items := layOut parent start n
    let (more, numbers) := layOutAll parent (start + items.length) rest
    (items ++ more, start :: numbers)

end

def ofDocument (d : Document) : Tree :=
  let (items, children) := layOutAll 0 1 d.nodes
  ⟨({ kind := .document, children, past := items.length + 1,
      node := .element "" [] d.nodes } :: items).toArray⟩

def item (t : Tree) (i : Nat) : Item :=
  t.items.getD i { kind := .text }

/-- The number of a document's root element. -/
def rootElement (t : Tree) : Nat :=
  ((t.item 0).children.find? fun i => (t.item i).kind = .element).getD 0

/-- The text of a node: its own, or that of everything inside it. -/
def stringValue (t : Tree) (i : Nat) : String :=
  let x := t.item i
  match x.kind with
  | .element => x.node.textContent
  | .document => x.node.textContent
  | _ => x.content

/-- The node that stands for a node in the order of siblings: the element it is attached to, or
itself. -/
def owner (t : Tree) (i : Nat) : Nat :=
  let x := t.item i
  if x.kind.isAttached then x.parent.getD 0 else i

def ancestors (t : Tree) : (fuel : Nat) → Nat → List Nat
  | 0, _ => []
  | fuel + 1, i => match (t.item i).parent with
    | some p => p :: ancestors t fuel p
    | none => []

/-- The nodes from one number up to another, without those that are attached to elements. -/
def between (t : Tree) (start stop : Nat) : List Nat :=
  (List.range' start (stop - start)).filter fun i => !(t.item i).kind.isAttached

/-- The nodes along an axis, the nearest first. -/
def along (t : Tree) (axis : Axis) (i : Nat) : List Nat :=
  let x := t.item i
  let siblings := if x.kind.isAttached then []
    else (x.parent.map fun p => (t.item p).children).getD []
  match axis with
  | .self => [i]
  | .child => x.children
  | .attribute => x.attributes
  | .parent => x.parent.toList
  | .ancestor => t.ancestors (i + 1) i
  | .ancestorOrSelf => i :: t.ancestors (i + 1) i
  | .descendant => t.between (i + 1) x.past
  | .descendantOrSelf => i :: t.between (i + 1) x.past
  | .followingSibling => siblings.filter (i < ·)
  | .precedingSibling => (siblings.filter (· < i)).reverse
  | .following => t.between (t.item (t.owner i)).past t.items.size
  | .preceding =>
    let o := t.owner i
    ((t.between 1 o).filter fun j => (t.item j).past ≤ o).reverse
  | .namespace => x.namespaces

/-- The kind of the nodes that a name on an axis means. -/
def principal : Axis → Kind
  | .attribute => .attribute
  | .namespace => .namespace
  | _ => .element

def passes (t : Tree) (axis : Axis) (test : NodeTest) (i : Nat) : Bool :=
  let x := t.item i
  let principal := principal axis
  match test with
  | .all _ => x.kind = principal
  | .name _ name => x.kind = principal && x.name == name
  | .node => true
  | .text => x.kind = .text
  | .comment => x.kind = .comment
  | .instruction _ => false

/-- The first element with an identifier: an `id`, or the name of an anchor. -/
def identified? (t : Tree) (id : String) : Option Nat :=
  (List.range t.items.size).findSome? fun i =>
    let x := t.item i
    if x.kind = .attribute && x.content == id then
      let owner := x.parent.getD 0
      if x.name == "id" || (x.name == "name" && (t.item owner).name == "a") then some owner
      else none
    else none

end Tree
end WebScript.XPath
