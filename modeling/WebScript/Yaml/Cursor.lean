namespace WebScript.Yaml

/-- Why a document has no value. -/
inductive Fault where
  | malformed
  | badValue
  | tooLarge
  | emptyNumber
  | unknownTruthValue
  | wrongType
  | notATimestamp
  deriving DecidableEq, Repr

/-- A line ends at a line feed, a carriage return, a next-line control or a Unicode separator. -/
def isBreak (c : Char) : Bool :=
  c == '\n' || c == '\r' || c == Char.ofNat 0x85 || c == Char.ofNat 0x2028 ||
    c == Char.ofNat 0x2029

def endsLine : Option Char → Bool
  | none => true
  | some c => isBreak c

def endsPart (c : Option Char) : Bool :=
  endsLine c || c == some ' '

/-- The end of the line, a space or a tab. -/
def endsWord (c : Option Char) : Bool :=
  endsPart c || c == some '\t'

/-- What is left of a text, and how much of it has been passed. -/
structure Cursor where
  rest : List Char
  index : Nat := 0
  line : Nat := 0
  column : Nat := 0

namespace Cursor

def peek (c : Cursor) : Option Char :=
  c.rest.head?

def peekAt (n : Nat) (c : Cursor) : Option Char :=
  c.rest[n]?

/-- One character on. A byte order mark has no width, and a carriage return before a line feed does
not end the line by itself. -/
def next (c : Cursor) : Cursor :=
  match c.rest with
  | [] => c
  | a :: rest =>
    if isBreak a && !(a == '\r' && rest.head? == some '\n') then
      ⟨rest, c.index + 1, c.line + 1, 0⟩
    else if a == Char.ofNat 0xFEFF then ⟨rest, c.index + 1, c.line, c.column⟩
    else ⟨rest, c.index + 1, c.line, c.column + 1⟩

def skip : Nat → Cursor → Cursor
  | 0, c => c
  | n + 1, c => skip n c.next

/-- The characters up to the first that fails the test, and the place after them. -/
def takeWhile (p : Char → Bool) (c : Cursor) : List Char × Cursor :=
  let taken := c.rest.takeWhile p
  (taken, c.skip taken.length)

def skipWhile (p : Char → Bool) (c : Cursor) : Cursor :=
  (c.takeWhile p).2

def skipSpaces : Cursor → Cursor :=
  skipWhile (· == ' ')

def skipLine : Cursor → Cursor :=
  skipWhile (!isBreak ·)

/-- The end of the line, if a comment begins here. -/
def skipComment (c : Cursor) : Cursor :=
  if c.peek == some '#' then c.skipLine else c

/-- A line break as it counts in the content, none if there is none here: all but the Unicode
separators count as a line feed. -/
def lineBreak (c : Cursor) : List Char × Cursor :=
  match c.rest with
  | '\r' :: '\n' :: _ => (['\n'], c.skip 2)
  | a :: _ =>
    if a == '\n' || a == '\r' || a == Char.ofNat 0x85 then (['\n'], c.next)
    else if isBreak a then ([a], c.next)
    else ([], c)
  | [] => ([], c)

/-- A line of three hyphens or three points, which ends a document's content. -/
def atMarker (c : Cursor) : Bool :=
  match c.rest with
  | '-' :: '-' :: '-' :: rest => endsWord rest.head?
  | '.' :: '.' :: '.' :: rest => endsWord rest.head?
  | _ => false

end Cursor
end WebScript.Yaml
