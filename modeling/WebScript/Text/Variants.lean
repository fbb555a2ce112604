import WebScript.Text.Case

namespace WebScript.Text

/-- The small letter of a character, as a single character. -/
def smallLetter (c : Char) : Char :=
  if c.toNat < 128 then lowerAscii c
  else if c = 'İ' then 'i'
  else shiftBy CaseTable.toLower c

/-- The characters whose small letter is another one. -/
def capitals (small : Char) : List Char :=
  let n : Int := small.toNat
  let inRun (run : Nat × Nat × Nat × Int) : Option Char :=
    let (first, last, step, shift) := run
    let m := (n - shift).toNat
    if first ≤ m && m ≤ last && (m - first) % step == 0 then some (Char.ofNat m) else none
  let listed := CaseTable.toLower.filterMap inRun
  if small = 'i' then 'İ' :: listed else listed

/-- The small letters that share a capital with one, itself included. -/
def smallLetters (small : Char) : List Char :=
  match CaseTable.sameCapital.find? (·.contains small.toNat) with
  | some codes => codes.map Char.ofNat
  | none => [small]

def variants (c : Char) : List Char :=
  if c.toNat < 128 && !c.isAlpha then [c]
  else
    let smalls := smallLetters (smallLetter c)
    smalls ++ smalls.flatMap capitals

/-- The spellings of a character within ASCII. -/
def variantsAscii (c : Char) : List Char :=
  if c.isUpper then [c, c.toLower]
  else if c.isLower then [c, c.toUpper]
  else [c]

end WebScript.Text
