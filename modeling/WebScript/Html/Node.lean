namespace WebScript.Html

/-- A node of a page. An attribute may stand without a value. -/
inductive Node where
  | element (name : String) (attributes : List (String × Option String)) (children : List Node)
  | text (content : String)
  | comment (content : String)

instance : Inhabited Node := ⟨.text ""⟩

namespace Node

/-- The value of an attribute; one that stands without a value has the empty one. -/
def attribute? (name : String) : Node → Option String
  | element _ attributes _ => (attributes.lookup name).map (·.getD "")
  | _ => none

def children : Node → List Node
  | element _ _ nodes => nodes
  | _ => []

def isElement : Node → Bool
  | element _ _ _ => true
  | _ => false

def hasName (name : String) : Node → Bool
  | element n _ _ => n == name
  | _ => false

mutual

def textContent : Node → String
  | text content => content
  | comment _ => ""
  | element _ _ nodes => textContents nodes

def textContents : List Node → String
  | [] => ""
  | n :: rest => textContent n ++ textContents rest

end

mutual

/-- The elements of a name in a node, itself included, in document order. -/
def named (name : String) : Node → List Node
  | text _ => []
  | comment _ => []
  | element n attributes nodes =>
    let inner := namedIn name nodes
    if n = name then element n attributes nodes :: inner else inner

def namedIn (name : String) : List Node → List Node
  | [] => []
  | n :: rest => named name n ++ namedIn name rest

end

/-- The text at the start of an element, before its first element or comment. -/
def leadingText (n : Node) : String :=
  match n.children with
  | text content :: _ => content
  | _ => ""

end Node
end WebScript.Html
