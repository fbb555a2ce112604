import WebScript.Number.Hex

namespace WebScript.Text

def hexDigit (n : Nat) : Char :=
  if n < 10 then Char.ofNat (48 + n) else Char.ofNat (87 + n)

/-- The last `width` hexadecimal digits of a number. -/
def hexDigits : (width n : Nat) → List Char
  | 0, _ => []
  | width + 1, n => hexDigits width (n / 16) ++ [hexDigit (n % 16)]

/-- Codes from D800 to DFFF are halves of characters. -/
def isHalf (n : Nat) : Bool :=
  0xD800 ≤ n && n ≤ 0xDFFF

/-- A half in a text: a mark, which is one of eight noncharacters and has the second digit of the
code for its plane, and the last two digits. -/
def half (n : Nat) : List Char :=
  Char.ofNat (n / 0x100 % 0x10 * 0x10000 + 0xFFFF) :: hexDigits 2 n

def isHalfMark (c : Char) : Bool :=
  c.toNat % 0x10000 == 0xFFFF && 8 ≤ c.toNat / 0x10000 && c.toNat / 0x10000 ≤ 0xF

def isWhole (cs : List Char) : Bool :=
  cs.all (!isHalfMark ·)

def halfAt? : List Char → Option (Nat × List Char)
  | c :: a :: b :: rest => do
    guard (isHalfMark c)
    let digits ← Number.hexNumber? 2 [a, b]
    return (0xD000 + c.toNat / 0x10000 * 0x100 + digits, rest)
  | _ => none

/-- A text with the character that its first two halves make, if it begins with a pair of them. -/
def withPair (text : List Char) : List Char :=
  match halfAt? text with
  | none => text
  | some (lead, rest) => match halfAt? rest with
    | none => text
    | some (trail, after) =>
      if lead < 0xDC00 && 0xDC00 ≤ trail then
        Char.ofNat (0x10000 + (lead - 0xD800) * 0x400 + (trail - 0xDC00)) :: after
      else text

/-- A text in which two halves side by side are the character that they make. -/
def joined (text : List Char) : List Char :=
  text.foldr (fun c rest => withPair (c :: rest)) []

def markEscape (c : Char) : List Char :=
  ['\\', 'u', 'd', hexDigit (c.toNat / 0x10000)]

end WebScript.Text
