namespace WebScript.Decimal

/-- What the 64 bits of a floating-point number say. -/
inductive Reading where
  | notANumber
  | infinite (negative : Bool)
  | finite (negative : Bool) (mantissa : Nat) (exponent : Int)
  deriving DecidableEq, Repr

/-- Sign, mantissa and binary exponent of a number. -/
def Reading.ofBits (bits : UInt64) : Reading :=
  let n := bits.toNat
  let negative := n / Nat.pow 2 63 == 1
  let e : Nat := n / Nat.pow 2 52 % Nat.pow 2 11
  let f := n % Nat.pow 2 52
  if e == 2047 then if f == 0 then .infinite negative else .notANumber
  else if e == 0 then .finite negative f (-1074)
  else .finite negative (f + Nat.pow 2 52) ((e : Int) - 1075)

def Reading.of (x : Float) : Reading :=
  .ofBits x.toBits

structure Ratio where
  num : Nat
  den : Nat

def Ratio.ofBinary (m : Nat) (e : Int) : Ratio :=
  if e ≥ 0 then ⟨m * Nat.pow 2 e.toNat, 1⟩ else ⟨m, Nat.pow 2 (-e).toNat⟩

/-- A fraction times a power of ten. -/
def Ratio.scale (r : Ratio) (power : Int) : Ratio :=
  if power ≥ 0 then ⟨r.num * Nat.pow 10 power.toNat, r.den⟩
  else ⟨r.num, r.den * Nat.pow 10 (-power).toNat⟩

/-- The nearest whole number; half goes to the even neighbour. -/
def Ratio.round (r : Ratio) : Nat :=
  let q := r.num / r.den
  let rest := 2 * (r.num % r.den)
  if rest < r.den then q
  else if rest > r.den then q + 1
  else if q % 2 == 0 then q else q + 1

end WebScript.Decimal
