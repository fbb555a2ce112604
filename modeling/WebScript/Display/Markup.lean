import WebScript.Display.Emoji

namespace WebScript.Display

/-- What a tag begins with after its bracket. -/
def startsTag (c : Char) : Bool :=
  ('a' ≤ c && c ≤ 'z') || c == '#' || c == '/' || c == '@'

/-- The tag at the start of a text: how many backslashes stand before it, what it holds, and the
rest of the text. -/
def tagAt? (text : List Char) : Option (Nat × List Char × List Char) :=
  let slashes := (text.takeWhile (· == '\\')).length
  match text.drop slashes with
  | '[' :: c :: rest =>
    let inside := rest.takeWhile fun d => d != '[' && d != ']'
    match startsTag c, rest.drop inside.length with
    | true, ']' :: after => some (slashes, c :: inside, after)
    | _, _ => none
  | _ => none

def escapeTags : (fuel : Nat) → List Char → List Char
  | 0, text => text
  | _ + 1, [] => []
  | fuel + 1, c :: rest =>
    match tagAt? (c :: rest) with
    | some (slashes, tag, after) =>
      List.replicate (2 * slashes + 1) '\\' ++ '[' :: tag ++ ']' :: escapeTags fuel after
    | none => c :: escapeTags fuel rest

/-- A text as markup that shows it: a backslash before each tag, and a second one after a single one
at the end. -/
def escape (text : String) : String :=
  let escaped := escapeTags text.length text.toList
  match escaped.reverse with
  | '\\' :: '\\' :: _ => .ofList escaped
  | '\\' :: _ => .ofList (escaped ++ ['\\'])
  | _ => .ofList escaped

/-- The parts of markup. A tag has all that stands between its brackets. -/
inductive Piece where
  | plain (text : List Char)
  | tag (inside : List Char)
  deriving DecidableEq, Repr

/-- A plain part, unless it is empty. -/
def plainPiece (text : List Char) : List Piece :=
  if text.isEmpty then [] else [.plain text]

/-- The parts of markup, after some plain text in reverse order. Two backslashes before a tag stand
for one. -/
def pieces : (fuel : Nat) → (before : List Char) → List Char → List Piece
  | 0, before, _ => plainPiece before.reverse
  | _ + 1, before, [] => plainPiece before.reverse
  | fuel + 1, before, c :: rest =>
    match tagAt? (c :: rest) with
    | none => pieces fuel (c :: before) rest
    | some (slashes, tag, after) =>
      plainPiece before.reverse ++ plainPiece (List.replicate (slashes / 2) '\\') ++
        (if slashes % 2 = 1 then .plain ('[' :: tag ++ [']']) else .tag tag) ::
          pieces fuel [] after

/-- An opening bracket with a backslash is the bracket alone. -/
def bareBrackets : List Char → List Char
  | '\\' :: '[' :: rest => '[' :: bareBrackets rest
  | c :: rest => c :: bareBrackets rest
  | [] => []

/-- Controls that are not shown: bell, backspace, the two tabulations of pages, carriage return. -/
def isDropped (c : Char) : Bool :=
  [7, 8, 11, 12, 13].contains c.toNat

def plainText (text : List Char) : List Char :=
  (showEmoji text.length (bareBrackets text)).filter (!isDropped ·)

/-- What a piece says in plain text. -/
def Piece.wording : Piece → List Char
  | plain text => text
  | tag _ => []

/-- The text that pieces show. -/
def display (ps : List Piece) : List Char :=
  ps.flatMap fun p => plainText p.wording

end WebScript.Display
