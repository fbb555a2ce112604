import WebScript.Html.Closing
import WebScript.Html.Node
import WebScript.Text.Find
import WebScript.Url.Encoded

namespace WebScript.Html.Writer

/-- Attributes that hold an address. The name of an anchor counts as one. -/
def holdsAddress (element name : String) : Bool :=
  name == "href" || name == "action" || name == "src" || (name == "name" && element == "a")

def isAddressChar (c : Char) : Bool :=
  Url.Encoded.isPlain c || "!*'()\"#$%&+,/:;<=>?@[\\]^\x60\x7b|\x7d".toList.contains c

/-- An address with percent signs for what cannot stand in one; leading white space is dropped. -/
def addressText (value : List Char) : List Char :=
  (value.dropWhile fun c => c == ' ' || c == '\t' || c == '\n' || c == '\r').flatMap fun c =>
    if isAddressChar c then [c] else (String.singleton c).toUTF8.toList.flatMap Url.Encoded.percent

def escapeText (c : Char) : List Char :=
  match c with
  | '&' => "&amp;".toList
  | '<' => "&lt;".toList
  | '>' => "&gt;".toList
  | c => [c]

/-- Attribute text. An ampersand before a brace and the opening of a comment stay as they are. -/
def escapeAttribute : List Char → List Char
  | [] => []
  | '&' :: '\x7b' :: rest => '&' :: '\x7b' :: escapeAttribute rest
  | '<' :: '!' :: '-' :: '-' :: rest => '<' :: '!' :: '-' :: '-' :: escapeAttribute rest
  | c :: rest => escapeText c ++ escapeAttribute rest

/-- A value in quotes: double ones, or single ones around those. -/
def quoteValue (value : List Char) : List Char :=
  if value.contains '"' then
    if value.contains '\'' then
      '"' :: value.flatMap (fun c => if c == '"' then "&quot;".toList else [c]) ++ ['"']
    else '\'' :: value ++ ['\'']
  else '"' :: value ++ ['"']

def attributeText (element : String) (entry : String × Option String) : List Char :=
  let (name, value) := entry
  let written : List Char := match value with
    | none => []
    | some value =>
      if booleanAttributes.contains name then []
      else
        let escaped := escapeAttribute value.toList
        '=' :: quoteValue (if holdsAddress element name then addressText escaped else escaped)
  ' ' :: name.toList ++ written

def openingText (name : String) (attributes : List (String × Option String)) : List Char :=
  '<' :: name.toList ++ attributes.flatMap (attributeText name)

mutual

/-- The written form of a node. In scripts and styles text stands as it is. An empty list item has
no end tag. -/
def write (raw : Bool) : Node → List Char
  | .text content => if raw then content.toList else content.toList.flatMap escapeText
  | .comment content => "<!--".toList ++ content.toList ++ "-->".toList
  | .element name attributes nodes =>
    let opening := openingText name attributes ++ ['>']
    if voidElements.contains name then opening
    else if nodes.isEmpty && name == "li" then opening
    else
      opening ++ writeAll (name == "script" || name == "style") nodes ++
        '<' :: '/' :: name.toList ++ ['>']

def writeAll (raw : Bool) : List Node → List Char
  | [] => []
  | n :: rest => write raw n ++ writeAll raw rest

end

/-- The start of a declaration of the content's type. -/
def typeDeclaration : List Char :=
  "<meta http-equiv=\"Content-Type\"".toList

/-- Leaves out declarations of the content's type, with fuel for every character. -/
def withoutTypeDeclarations : (fuel : Nat) → List Char → List Char
  | 0, text => text
  | _ + 1, [] => []
  | fuel + 1, c :: rest =>
    let kept := c :: withoutTypeDeclarations fuel rest
    match Text.afterStart? typeDeclaration (c :: rest) with
    | some inside => match Text.cutAt? ['>'] inside with
      | some (_, rest) => withoutTypeDeclarations fuel rest
      | none => kept
    | none => kept

/-- The written form of nodes without declarations of the content's type. -/
def writeMarkup (raw : Bool) (nodes : List Node) : List Char :=
  let text := writeAll raw nodes
  withoutTypeDeclarations text.length text

end WebScript.Html.Writer
