import WebScript.Number.Whole

namespace WebScript.Decimal

/-- The floating-point number nearest to `m * 10 ^ exponent`. -/
def ofDecimal (m : Nat) (exponent : Int) : Float :=
  let size : Int := (Number.natText m).length
  if m == 0 then 0.0
  else if size + exponent > 400 then 1.0 / 0.0
  else if size + exponent < -400 then 0.0
  else Float.ofScientific m (exponent < 0) exponent.natAbs

def spanDigits : List Char → List Nat × List Char
  | [] => ([], [])
  | c :: rest => match Number.digitValue? c with
    | some d =>
      let (more, rest) := spanDigits rest
      (d :: more, rest)
    | none => ([], c :: rest)

/-- The exponent after a number, or zero where there is none. Nothing may follow. -/
def exponent? : List Char → Option Int
  | [] => some 0
  | c :: rest =>
    if c == 'e' || c == 'E' then
      let (negative, rest) := Number.splitSign rest
      match spanDigits rest with
      | ([], _) => none
      | (ds, []) =>
        let n : Int := Number.ofDigits 10 ds
        some (if negative then -n else n)
      | _ => none
    else none

/-- An unsigned number: digits with a point before, among or after them, and an exponent. -/
def unsigned? (text : List Char) : Option Float :=
  let (whole, rest) := spanDigits text
  let (fraction, rest) := match rest with
    | '.' :: rest => spanDigits rest
    | rest => ([], rest)
  if whole.isEmpty && fraction.isEmpty then none
  else (exponent? rest).map fun e =>
    ofDecimal (Number.ofDigits 10 (whole ++ fraction)) (e - fraction.length)

/-- A number with white space around it and a sign; infinity and no number have names. -/
def read? (text : List Char) : Option Float :=
  let (negative, body) := Number.splitSign (Text.trimWhere Number.isMargin text)
  let name := String.ofList (body.map Char.toLower)
  let size := if name == "inf" || name == "infinity" then some (1.0 / 0.0)
    else if name == "nan" then some (0.0 / 0.0)
    else unsigned? body
  size.map fun x => if negative then -x else x

end WebScript.Decimal
