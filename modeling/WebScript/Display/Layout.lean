import WebScript.Text.Blank
import WebScript.Text.Find

namespace WebScript.Display

def roomOf (c : Char) : Nat :=
  if c.toNat < 0x20 || (0x7F ≤ c.toNat && c.toNat < 0xA0) then 0 else 1

def room (text : List Char) : Nat :=
  text.foldr (fun c rest => roomOf c + rest) 0

/-- Characters at which lines are told apart when a column is measured. -/
def endsLine (c : Char) : Bool :=
  [10, 0x1C, 0x1D, 0x1E, 0x85, 0x2028, 0x2029].contains c.toNat

def widest (text : List Char) : Nat :=
  let step (state : Nat × Nat) (c : Char) : Nat × Nat :=
    if endsLine c then (max state.1 state.2, 0) else (state.1, state.2 + roomOf c)
  let (best, last) := text.foldl step (0, 0)
  max best last

def columnWidth (cells : List String) : Nat :=
  (cells.map fun cell => widest cell.toList).foldl max 0

/-- A line with spaces for its tabulators, which lead to the next multiple of eight. -/
def spread : (position : Nat) → List Char → List Char
  | _, [] => []
  | position, c :: rest =>
    if c = '\t' then
      let size := 8 - position % 8
      List.replicate size ' ' ++ spread (position + size) rest
    else c :: spread (position + roomOf c) rest

/-- The words of a line with the white space after each of them; that at the start belongs to the
first word, and there is no word in white space alone. -/
def wordsOf : (fuel : Nat) → List Char → List (List Char)
  | 0, _ => []
  | fuel + 1, text =>
    let start := text.takeWhile Text.isBlank
    let rest := text.drop start.length
    let body := rest.takeWhile (!Text.isBlank ·)
    let rest := rest.drop body.length
    let space := rest.takeWhile Text.isBlank
    if body.isEmpty then []
    else (start ++ body ++ space) :: wordsOf fuel (rest.drop space.length)

def dropEndBlanks (text : List Char) : List Char :=
  (text.reverse.dropWhile Text.isBlank).reverse

/-- Puts words on lines, the last of which comes first. A word that does not fit begins a new line,
unless it is the first of all. -/
def fillLines (width : Nat) (lines : List (List Char)) (used : Nat) :
    List (List Char) → List (List Char)
  | [] => lines
  | word :: rest =>
    let need := room (dropEndBlanks word)
    match lines with
    | [] => fillLines width [word] (room word) rest
    | line :: before =>
      if used + need ≤ width then fillLines width ((line ++ word) :: before) (used + room word) rest
      else fillLines width (word :: line :: before) (room word) rest

/-- A line cut to a width: white space at its end goes first, and an ellipsis takes the place of
more. -/
def cutTo (width : Nat) (line : List Char) : List Char :=
  let blanks := (line.reverse.takeWhile Text.isBlank).length
  let line := line.take (line.length - min blanks (line.length - width))
  if room line > width then line.take (width - 1) ++ ['…'] else line

/-- The lines that a line of a cell takes in a column. -/
def foldLine (width : Nat) (line : List Char) : List (List Char) :=
  let line := if line.contains '\t' then spread 0 line else line
  match fillLines width [] 0 (wordsOf (line.length + 1) line) with
  | [] => [cutTo width line]
  | lines => lines.reverse.map (cutTo width)

def cellLines (width : Nat) (cell : String) : List (List Char) :=
  (Text.pieces '\n' cell.toList).flatMap (foldLine width)

end WebScript.Display
