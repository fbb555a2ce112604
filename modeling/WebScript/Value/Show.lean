import WebScript.Text.Quoted
import WebScript.Value.Basic

namespace WebScript

/-- A positive number is written with a point while its first digit stands between the fourth
decimal and the sixteenth whole place, and with an exponent of at least two digits beyond. -/
def floatDigitsText (d : Decimal.Digits) : List Char :=
  let exponent := d.point - 1
  if -4 ≤ exponent ∧ exponent < 16 then
    if d.point ≤ 0 then ['0', '.'] ++ List.replicate (-d.point).toNat '0' ++ d.digits
    else
      let whole := d.digits.take d.point.toNat
      let fraction := d.digits.drop d.point.toNat
      whole ++ List.replicate (d.point.toNat - whole.length) '0' ++ ['.'] ++
        (if fraction.isEmpty then ['0'] else fraction)
  else
    let size := (padded 2 exponent.natAbs).toList
    let tail := d.digits.drop 1
    d.digits.take 1 ++ (if tail.isEmpty then [] else '.' :: tail) ++
      ['e', if exponent < 0 then '-' else '+'] ++ size

/-- The shortest text that reads back as the number. -/
def floatText (x : Float) : String :=
  match Decimal.Reading.of x with
  | .notANumber => "nan"
  | .infinite negative => if negative then "-inf" else "inf"
  | .finite negative m e =>
    let body := if m == 0 then ['0', '.', '0'] else floatDigitsText (Decimal.shortest m e)
    .ofList (if negative then '-' :: body else body)

namespace Value

mutual

/-- The form of a value in a message: texts in quotes, collections in brackets. -/
def shown : Value → String
  | null => "None"
  | bool b => if b then "True" else "False"
  | int n => .ofList (Number.intText n)
  | float x => floatText x
  | .text s => Text.quoted s
  | bytes b => Text.quotedBytes b
  | date d => d.shown
  | moment m => m.shown
  | list items => "[" ++ ", ".intercalate (shownItems items) ++ "]"
  | map entries => "\x7b" ++ ", ".intercalate (shownEntries entries) ++ "\x7d"
  | set items =>
    if items.isEmpty then "set()" else "\x7b" ++ ", ".intercalate (shownItems items) ++ "\x7d"
  | pair a b => "(" ++ shown a ++ ", " ++ shown b ++ ")"

def shownItems : List Value → List String
  | [] => []
  | v :: rest => shown v :: shownItems rest

def shownEntries : List (Value × Value) → List String
  | [] => []
  | (k, v) :: rest => (shown k ++ ": " ++ shown v) :: shownEntries rest

end

/-- The value as a text: a text is itself, dates have their usual form. -/
def asText : Value → String
  | .text s => s
  | date d => d.text
  | moment m => m.text
  | v => v.shown

mutual

/-- Whether a value can be written: whole numbers are only up to a length. -/
def isWritable : Value → Bool
  | int n => n.natAbs < Nat.pow 10 Number.maxDigits
  | list items => areWritable items
  | map entries => entriesWritable entries
  | set items => areWritable items
  | pair a b => isWritable a && isWritable b
  | _ => true

def areWritable : List Value → Bool
  | [] => true
  | v :: rest => isWritable v && areWritable rest

def entriesWritable : List (Value × Value) → Bool
  | [] => true
  | (k, v) :: rest => isWritable k && isWritable v && entriesWritable rest

end

end Value
end WebScript
