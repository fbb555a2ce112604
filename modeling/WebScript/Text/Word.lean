import WebScript.Number.Whole
import WebScript.Text.Case
import WebScript.Text.WordTable

namespace WebScript.Text

def isLetterAscii (c : Char) : Bool :=
  ('a' ≤ c && c ≤ 'z') || ('A' ≤ c && c ≤ 'Z')

def isDigitAscii (c : Char) : Bool :=
  '0' ≤ c && c ≤ '9'

/-- Letters and digits of ASCII and the underscore. -/
def isWordAscii (c : Char) : Bool :=
  isLetterAscii c || isDigitAscii c || c == '_'

/-- Letters and numerals of all scripts and the underscore. -/
def isWord (c : Char) : Bool :=
  isWordAscii c || (128 ≤ c.toNat && inRanges WordTable.alphanumeric c)

def isDecimal (c : Char) : Bool :=
  (Number.digitValue? c).isSome

def isNamePart (c : Char) : Bool :=
  if c.toNat < 128 then isWordAscii c
  else (isWord c && !inRanges WordTable.outsideNames c) || inRanges WordTable.marks c

def isNameInitial (c : Char) : Bool :=
  if c.toNat < 128 then isLetterAscii c || c == '_'
  else inRanges WordTable.initial c ||
    (isWord c && !isDecimal c && !inRanges WordTable.outsideNames c &&
      !inRanges WordTable.notInitial c)

/-- A name: an initial character and parts. -/
def isName : List Char → Bool
  | [] => false
  | c :: cs => isNameInitial c && cs.all isNamePart

end WebScript.Text
