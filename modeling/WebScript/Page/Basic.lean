import WebScript.Html.Tree
import WebScript.Page.Form

namespace WebScript

open Html

/-- A page's top nodes: the root element and what stands before and after it. -/
structure Document where
  before : List Node
  root : Node
  after : List Node

namespace Document

/-- The document of some top nodes, if an element is among them. -/
def ofNodes? (nodes : List Node) : Option Document :=
  match nodes.span fun n => !n.isElement with
  | (before, root :: after) => some ⟨before, root, after⟩
  | _ => none

def nodes (d : Document) : List Node :=
  d.before ++ d.root :: d.after

end Document

/-- A page. One of white space only has no document. -/
structure Page where
  url : String
  html : String
  document : Option Document
  forms : List Form

namespace Page

/-- The page that an address has brought; a text without any element is none. -/
def ofText (url html : String) : Except Breakdown Page :=
  if Text.isAllBlank html then .ok ⟨url, html, none, []⟩
  else match Document.ofNodes? (nodesOf html) with
    | none => .error .emptyPage
    | some document =>
      .ok ⟨url, html, some document, (document.root.named "form").map Form.ofElement⟩

end Page
end WebScript
