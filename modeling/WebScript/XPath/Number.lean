import WebScript.Decimal.Read
import WebScript.Decimal.Shortest

namespace WebScript.XPath

def isBlank (c : Char) : Bool :=
  c == ' ' || c == '\t' || c == '\n' || c == '\r'

def notANumber : Float := 0.0 / 0.0

/-- Digits as a number, the most significant first, summed up in floating point. -/
def sumDigits (digits : List Char) : Float :=
  digits.foldl (fun x c => x * 10.0 + Float.ofNat (c.toNat - 48)) 0.0

/-- The fraction that digits after the point denote; after the leading zeros twenty of them count.
-/
def fraction (digits : List Char) : Float :=
  let zeros := digits.takeWhile (· == '0')
  let counted := (digits.drop zeros.length).take 20
  sumDigits counted / Decimal.ofDecimal 1 (zeros.length + counted.length)

/-- The exponent after a number, with its sign, and the rest. -/
def exponentPart (text : List Char) : Int × List Char :=
  match text with
  | c :: rest =>
    if c == 'e' || c == 'E' then
      let (negative, rest) := match rest with
        | '-' :: rest => (true, rest)
        | '+' :: rest => (false, rest)
        | rest => (false, rest)
      let digits := rest.takeWhile Char.isDigit
      let size := digits.foldl
        (fun (n : Nat) c => if n < 1000000 then 10 * n + (c.toNat - 48) else n) 0
      (if negative then -size else size, rest.drop digits.length)
    else (0, text)
  | [] => (0, [])

def unsignedNumber? (text : List Char) : Option (Float × List Char) :=
  let whole := text.takeWhile Char.isDigit
  let rest := text.drop whole.length
  let (x, rest) : Option Float × List Char := match rest with
    | '.' :: rest =>
      let digits := rest.takeWhile Char.isDigit
      if whole.isEmpty && digits.isEmpty then (none, rest)
      else (some (sumDigits whole + fraction digits), rest.drop digits.length)
    | rest => (if whole.isEmpty then none else some (sumDigits whole), rest)
  x.map fun x =>
    let (e, rest) := exponentPart rest
    (x * Decimal.ofDecimal 1 e, rest)

/-- The number a text denotes: white space around it, a minus sign, an unsigned number. -/
def numberOf (text : String) : Float :=
  let body := text.toList.dropWhile isBlank
  let (negative, body) := match body with
    | '-' :: body => (true, body)
    | body => (false, body)
  match unsignedNumber? body with
  | some (x, rest) => if rest.all isBlank then if negative then -x else x else notANumber
  | none => notANumber

def dropFractionZeros (digits : List Char) : List Char :=
  Decimal.dropTrailingZeros digits

/-- A positive number to a number of decimals, without the zeros at their end. -/
def fixedText (m : Nat) (e : Int) (places : Nat) : List Char :=
  let digits := Number.natText ((Decimal.Ratio.ofBinary m e).scale places).round
  let digits := List.replicate (places + 1 - digits.length) '0' ++ digits
  let whole := digits.take (digits.length - places)
  let fraction := dropFractionZeros (digits.drop (digits.length - places))
  if fraction.isEmpty then whole else whole ++ '.' :: fraction

/-- A positive number with one digit before the point, fourteen after it and an exponent. -/
def scientificText (m : Nat) (e : Int) : List Char :=
  let r := Decimal.Ratio.ofBinary m e
  let size := Decimal.magnitude r
  let digits := Number.natText (r.scale (15 - size)).round
  let exponent := size - 1 + (digits.length - 15)
  let fraction := dropFractionZeros ((digits.drop 1).take 14)
  let power := Number.natText exponent.natAbs
  digits.take 1 ++ (if fraction.isEmpty then [] else '.' :: fraction) ++
    ['e', if exponent < 0 then '-' else '+'] ++ List.replicate (2 - power.length) '0' ++ power

/-- The text of a number: a whole number of machine size by its digits; beyond a thousand million
and below a hundred thousandth with an exponent. -/
def numberText (x : Float) : String :=
  match Decimal.Reading.of x with
  | .notANumber => "NaN"
  | .infinite negative => if negative then "-Infinity" else "Infinity"
  | .finite negative m e =>
    if m == 0 then "0"
    else
      let size := x.abs
      let whole := (Decimal.Ratio.ofBinary m e).round
      let body :=
        if size < 2147483647.0 && size == Float.ofNat whole then Number.natText whole
        else if size > 1e9 || size < 1e-5 then scientificText m e
        else
          let place := Decimal.magnitude (.ofBinary m e)
          fixedText m e (if place = 1 then 15 else (15 - place).toNat)
      .ofList (if negative then '-' :: body else body)

/-- The remainder of a division that cuts off the fraction; it has the sign of the dividend. -/
def remainder (x y : Float) : Float :=
  match Decimal.Reading.of x, Decimal.Reading.of y with
  | .finite negative m e, .finite _ n f =>
    if n == 0 then notANumber
    else
      let low := if e < f then e else f
      let rest := (m * Nat.pow 2 (e - low).toNat) % (n * Nat.pow 2 (f - low).toNat)
      let size := (Float.ofNat rest).scaleB low
      if negative then -size else size
  | .finite _ _ _, .infinite _ => x
  | _, _ => notANumber

/-- The nearest whole number; half goes up, and what is near zero keeps its sign. -/
def roundHalfUp (x : Float) : Float :=
  if x ≥ -0.5 && x < 0.5 then x * 0.0
  else
    let low := x.floor
    if x - low ≥ 0.5 then low + 1.0 else low

end WebScript.XPath
