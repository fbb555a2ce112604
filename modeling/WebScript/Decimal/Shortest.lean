import WebScript.Decimal.Binary
import WebScript.Number.Whole

namespace WebScript.Decimal

/-- Decimal digits `d₁ … dₙ` and the place of the point: the value is `0.d₁…dₙ * 10 ^ point`. -/
structure Digits where
  digits : List Char
  point : Int
  deriving DecidableEq, Repr

/-- Whether `k / 10 ^ places` reads back as `m * 2 ^ e`: twice its distance is at most the width of
the interval, the ends counting when `m` is even. -/
def readsBack (m : Nat) (e : Int) (places : Int) (k : Nat) : Bool :=
  -- all in units of 2 ^ (e - 2) / 10 ^ places
  let candidate := (Ratio.mk k 1).scale (-places)
  let unit := Ratio.ofBinary 1 (e - 2)
  -- candidate / unit compared with 4 m - below and 4 m + 2
  let below := if m == Nat.pow 2 52 && e != -1074 then 1 else 2
  let num := candidate.num * unit.den
  let den := candidate.den * unit.num
  let low := (4 * m - below) * den
  let high := (4 * m + 2) * den
  if m % 2 == 0 then low ≤ num && num ≤ high else low < num && num < high

/-- The neighbours of the value on the grid of `places` decimals that read back, the nearer first.
-/
def onGrid (m : Nat) (e : Int) (places : Int) : Option Nat :=
  let scaled := (Ratio.ofBinary m e).scale places
  let low := scaled.num / scaled.den
  let near := scaled.round
  let far := if near == low then low + 1 else low
  if near > 0 && readsBack m e places near then some near
  else if far > 0 && readsBack m e places far then some far
  else none

/-- The number of digits before the point of a positive number; not positive for a small fraction.
-/
def magnitude (r : Ratio) : Int :=
  let whole := r.num / r.den
  if whole > 0 then (Number.natText whole).length
  else
    let inverse := r.den / r.num
    let guess := (Number.natText inverse).length
    if r.num * Nat.pow 10 (guess - 1) ≥ r.den then (2 : Int) - guess else 1 - guess

/-- The first grid with a hit among those that give `width`, `width + 1`, … digits. -/
def shortestFrom (m : Nat) (e : Int) (size : Int) : (tries width : Nat) → Nat × Int
  | 0, width => (((Ratio.ofBinary m e).scale (width - size)).round, width - size)
  | tries + 1, width =>
    match onGrid m e (width - size) with
    | some k => (k, width - size)
    | none => shortestFrom m e size tries (width + 1)

def dropTrailingZeros (cs : List Char) : List Char :=
  (cs.reverse.dropWhile (· == '0')).reverse

/-- The shortest digits of the positive number `m * 2 ^ e`. -/
def shortest (m : Nat) (e : Int) : Digits :=
  let size := magnitude (.ofBinary m e)
  let (k, places) := shortestFrom m e size 17 1
  let all := Number.natText k
  ⟨dropTrailingZeros all, all.length - places⟩

end WebScript.Decimal
