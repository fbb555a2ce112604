import WebScript.Value.Basic

namespace WebScript

inductive WholeFault where
  | notANumber
  | infinite
  deriving DecidableEq, Repr

/-- The whole number a value denotes; fractions are cut off. -/
def Value.whole : Value → Except WholeFault Int
  | .int n => .ok n
  | .bool b => .ok (if b then 1 else 0)
  | .float x => match Decimal.Reading.of x with
    | .notANumber => .error .notANumber
    | .infinite _ => .error .infinite
    | .finite negative m e =>
      let size : Nat := if e ≥ 0 then m * Nat.pow 2 e.toNat else m / Nat.pow 2 (-e).toNat
      .ok (if negative then -size else size)
  | .text s => match Number.read? s.toList with
    | some n => .ok n
    | none => .error .notANumber
  | .bytes b =>
    if b.any (· ≥ 128) then .error .notANumber
    else match Number.read? (b.map fun x => Char.ofNat x.toNat) with
      | some n => .ok n
      | none => .error .notANumber
  | _ => .error .notANumber

end WebScript
