import WebScript.Text.Half
import WebScript.Text.Printable

namespace WebScript.Text

/-- Single quotes, unless the text holds those and no double ones. -/
def quoteFor (cs : List Char) : Char :=
  if cs.contains '\'' && !cs.contains '"' then '"' else '\''

/-- A backslash and the letter or code that stands for the character. -/
def escapeCode (n : Nat) : List Char :=
  if n < 0x100 then '\\' :: 'x' :: hexDigits 2 n
  else if n < 0x10000 then '\\' :: 'u' :: hexDigits 4 n
  else '\\' :: 'U' :: hexDigits 8 n

def quotedChar (quote c : Char) : List Char :=
  if c = quote ∨ c = '\\' then ['\\', c]
  else if c = '\n' then ['\\', 'n']
  else if c = '\r' then ['\\', 'r']
  else if c = '\t' then ['\\', 't']
  else if isPrintable c then [c]
  else if isHalfMark c then markEscape c
  else escapeCode c.toNat

/-- The text in quotes, with escapes for the quote, the backslash and what is not printable. -/
def quoted (s : String) : String :=
  let cs := s.toList
  let quote := quoteFor cs
  .ofList (quote :: cs.flatMap (quotedChar quote) ++ [quote])

/-- Bytes in quotes after a `b`: printable ASCII as it is, any other byte by its code. -/
def quotedBytes (bytes : List UInt8) : String :=
  let cs := bytes.map fun b => Char.ofNat b.toNat
  let quote := quoteFor cs
  let show1 (c : Char) : List Char :=
    if c.toNat < 0x7F then quotedChar quote c else escapeCode c.toNat
  .ofList ('b' :: quote :: cs.flatMap show1 ++ [quote])

end WebScript.Text
