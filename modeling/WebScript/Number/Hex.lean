namespace WebScript.Number

def hexValue? (c : Char) : Option Nat :=
  if '0' ≤ c ∧ c ≤ '9' then some (c.toNat - 48)
  else if 'a' ≤ c ∧ c ≤ 'f' then some (c.toNat - 87)
  else if 'A' ≤ c ∧ c ≤ 'F' then some (c.toNat - 55)
  else none

/-- The number that exactly `width` hexadecimal digits denote. -/
def hexNumber? (width : Nat) (text : List Char) : Option Nat :=
  let digits := (text.take width).filterMap hexValue?
  if digits.length == width then some (digits.foldl (fun n d => 16 * n + d) 0) else none

end WebScript.Number
