import WebScript.Text.Find

namespace WebScript

/-- The parts of a path, without empty ones and those that stay in place. -/
def pathParts (path : List Char) : List (List Char) :=
  (Text.pieces '/' path).filter fun part => part != [] && part != ['.']

/-- The slashes that a path from the root begins with: two stay two, more count as one. -/
def pathRoot (path : List Char) : List Char :=
  match path with
  | '/' :: '/' :: '/' :: _ => ['/']
  | '/' :: '/' :: _ => ['/', '/']
  | '/' :: _ => ['/']
  | _ => []

def joinPath (root : List Char) (parts : List (List Char)) : String :=
  if root.isEmpty && parts.isEmpty then "."
  else .ofList (root ++ List.intercalate ['/'] parts)

def plainPath (path : String) : String :=
  joinPath (pathRoot path.toList) (pathParts path.toList)

/-- The path of the folder that holds a file. -/
def parentPath (path : String) : String :=
  joinPath (pathRoot path.toList) (pathParts path.toList).dropLast

abbrev Files := List (String × String)

namespace Files

/-- A text with every line end written as a line feed. -/
def unifyLines : List Char → List Char
  | '\r' :: '\n' :: rest => '\n' :: unifyLines rest
  | c :: rest => (if c == '\r' then '\n' else c) :: unifyLines rest
  | [] => []

def read? (path : String) (files : Files) : Option String :=
  (files.find? fun (p, _) => plainPath p == plainPath path).map fun (_, text) =>
    .ofList (unifyLines text.toList)

/-- Whether a path leads to a folder: the one that holds the files, or one on the way to a file. -/
def isFolder (path : String) (files : Files) : Bool :=
  let parts := pathParts path.toList
  (pathRoot path.toList).isEmpty && (parts.isEmpty || files.any fun (p, _) =>
    let inner := pathParts p.toList
    parts.length < inner.length && inner.take parts.length == parts)

end Files
end WebScript
