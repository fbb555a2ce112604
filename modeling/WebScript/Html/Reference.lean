import Std.Data.HashMap
import WebScript.Html.ReferenceTable
import WebScript.Number.Hex
import WebScript.Text.Find

namespace WebScript.Html

/-- A name's characters, and whether it may stand without a semicolon. -/
structure Reference where
  name : List Char
  bare : Bool
  content : List Char

def hexadecimal (cs : List Char) : Nat :=
  cs.foldl (fun n c => 16 * n + (Number.hexValue? c).getD 0) 0

def Reference.ofEntry (entry : List Char) : Reference :=
  let name := entry.takeWhile fun c => c != ':' && c != '*'
  let codes := entry.drop (name.length + 1)
  ⟨name, entry[name.length]? == some '*',
    (Text.pieces ',' codes).map fun code => Char.ofNat (hexadecimal code)⟩

/-- All names: those with a semicolon, and those that may stand without one. -/
def references : Std.HashMap String (List Char) :=
  let entries := referenceLines.flatMap fun line =>
    (Text.pieces ' ' line.toList).map Reference.ofEntry
  entries.foldl (fun m r =>
    let m := m.insert (.ofList (r.name ++ [';'])) r.content
    if r.bare then m.insert (.ofList r.name) r.content else m) ∅

def longestName : Nat := 32

/-- The longest name of at most `n` characters that the text begins with, and the rest. -/
def namedReference? (text : List Char) : (n : Nat) → Option (List Char × Bool × List Char)
  | 0 => none
  | n + 1 =>
    let name := text.take (n + 1)
    if name.length < n + 1 then namedReference? text n
    else match references[String.ofList name]? with
      | some content => some (content, name.getLast? == some ';', text.drop (n + 1))
      | none => namedReference? text n

/-- What the codes from 0x80 on stand for, as they are used rather than as they are defined. -/
def windowsCodes : List Nat :=
  [0x20AC, 0x81, 0x201A, 0x192, 0x201E, 0x2026, 0x2020, 0x2021, 0x2C6, 0x2030, 0x160, 0x2039,
   0x152, 0x8D, 0x17D, 0x8F, 0x90, 0x2018, 0x2019, 0x201C, 0x201D, 0x2022, 0x2013, 0x2014,
   0x2DC, 0x2122, 0x161, 0x203A, 0x153, 0x9D, 0x17E, 0x178]

def numericContent (n : Nat) : Char :=
  if n == 0 || n > 0x10FFFF || (0xD800 ≤ n && n ≤ 0xDFFF) then Char.ofNat 0xFFFD
  else if 0x80 ≤ n && n ≤ 0x9F then Char.ofNat (windowsCodes[n - 0x80]?.getD n)
  else Char.ofNat n

def afterSemicolon : List Char → List Char
  | ';' :: rest => rest
  | rest => rest

/-- A number after an ampersand and a number sign. -/
def numericReference? (text : List Char) : Option (List Char × List Char) :=
  let (base, digits?, body) := match text with
    | 'x' :: rest | 'X' :: rest => (16, fun c => (Number.hexValue? c).isSome, rest)
    | rest => (10, Char.isDigit, rest)
  let digits := body.takeWhile digits?
  if digits.isEmpty then none
  else
    let n := digits.foldl (fun n c => base * n + (Number.hexValue? c).getD 0) 0
    some ([numericContent n], afterSemicolon (body.drop digits.length))

/-- What follows an ampersand as a reference, and the rest. In an attribute a name without semicolon
is none when a letter, a digit or an equals sign follows. -/
def reference? (inAttribute : Bool) (text : List Char) : Option (List Char × List Char) :=
  match text with
  | '#' :: rest => numericReference? rest
  | _ => match namedReference? text longestName with
    | none => none
    | some (content, closed, rest) =>
      let goesOn := rest.head?.any fun c => c.isAlphanum || c == '='
      if inAttribute && !closed && goesOn then none else some (content, rest)

end WebScript.Html
