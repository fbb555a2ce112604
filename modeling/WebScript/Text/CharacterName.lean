import WebScript.Number.Hex
import WebScript.Text.Find
import WebScript.Text.NameTable

namespace WebScript.Text

def isNameLetter (c : Char) : Bool :=
  c.isAlphanum || c == ' ' || c == '-'

/-- The code point to which parts of the table give a name, in words. -/
def tabled? (name : List (List Char)) :
    (code : Nat) → (before : List (List Char)) → List (List Char) → Option Nat
  | _, _, [] => none
  | code, before, [] :: rest => tabled? name code before rest
  | code, before, (mark :: part) :: rest =>
    if mark = '@' then
      tabled? name ((Number.hexNumber? part.length part).getD code) before rest
    else
      let words := before.take (mark.toNat - 97) ++ pieces ' ' part
      if words = name then some code else tabled? name (code + 1) words rest

/-- The parts of the table, each with the sign or letter that it begins with. -/
def nameParts : List (List Char) :=
  NameTable.lines.flatMap fun line => line.toList.splitBy fun _ c => !(c.isLower || c == '@')

/-- Names that end with the number of their code point. -/
def numberedNames : List (String × Nat × Nat) :=
  [("CJK COMPATIBILITY IDEOGRAPH-", 0xF900, 0xFA6D),
   ("CJK COMPATIBILITY IDEOGRAPH-", 0xFA70, 0xFAD9),
   ("CJK COMPATIBILITY IDEOGRAPH-", 0x2F800, 0x2FA1D),
   ("KHITAN SMALL SCRIPT CHARACTER-", 0x18B00, 0x18CD5), ("NUSHU CHARACTER-", 0x1B170, 0x1B2FB)]

def ofNumberedName? (name : List Char) : Option Nat :=
  numberedNames.findSome? fun (start, first, last) => do
    let digits ← afterStart? start.toList name
    let n ← Number.hexNumber? digits.length digits
    if first ≤ n ∧ n ≤ last ∧ digits.length = (if n < 0x10000 then 4 else 5) then some n else none

def isUnifiedIdeograph (n : Nat) : Bool :=
  [(0x3400, 0x4DBF), (0x4E00, 0x9FFF), (0x20000, 0x2A6DF), (0x2A700, 0x2B738),
    (0x2B740, 0x2B81D), (0x2B820, 0x2CEA1), (0x2CEB0, 0x2EBE0), (0x30000, 0x3134A)].any
      fun (first, last) => first ≤ n && n ≤ last

/-- The ideograph with a number of four or five digits, whose letters are capitals. -/
def ideograph? (digits : List Char) : Option Nat :=
  if (digits.length = 4 ∨ digits.length = 5) ∧ !digits.any Char.isLower then
    (Number.hexNumber? digits.length digits).filter isUnifiedIdeograph
  else none

def leads : List String :=
  ["G", "GG", "N", "D", "DD", "R", "M", "B", "BB", "S", "SS", "", "J", "JJ", "C", "K", "T", "P",
   "H"]

def vowels : List String :=
  ["A", "AE", "YA", "YAE", "EO", "E", "YEO", "YE", "O", "WA", "WAE", "OE", "YO", "U", "WEO", "WE",
   "WI", "YU", "EU", "YI", "I"]

def tails : List String :=
  ["", "G", "GG", "GS", "N", "NJ", "NH", "D", "L", "LG", "LM", "LB", "LS", "LT", "LP", "LH", "M",
   "B", "BS", "S", "SS", "NG", "J", "C", "K", "T", "P", "H"]

/-- The syllable that letters spell: a consonant, a vowel and the consonants after it. -/
def syllable? (letters : List Char) : Option Nat :=
  let spelled := leads.flatMap fun lead => vowels.flatMap fun vowel => tails.map fun tail =>
    (lead ++ vowel ++ tail).toList
  (spelled.findIdx? (· == letters)).map (0xAC00 + ·)

/-- The code point of the character with a name. Case does not matter but to syllables and unified
ideographs. -/
def ofName? (name : List Char) : Option Nat :=
  if !name.all isNameLetter then none
  else match afterStart? "HANGUL SYLLABLE ".toList name,
      afterStart? "CJK UNIFIED IDEOGRAPH-".toList name with
    | some letters, _ => syllable? letters
    | none, some digits => ideograph? digits
    | none, none =>
      let name := name.map Char.toUpper
      (ofNumberedName? name).or (tabled? (pieces ' ' name) 0 [] nameParts)

end WebScript.Text
