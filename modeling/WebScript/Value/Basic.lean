import WebScript.Decimal.Shortest
import WebScript.Value.Calendar

namespace WebScript

/-- A value of a data document. The keys of a map are scalars and stand in their written order. -/
inductive Value where
  | null
  | bool (b : Bool)
  | int (n : Int)
  | float (x : Float)
  | text (s : String)
  | bytes (bytes : List UInt8)
  | date (d : Date)
  | moment (m : Moment)
  | list (items : List Value)
  | map (entries : List (Value × Value))
  | set (items : List Value)
  | pair (first second : Value)

namespace Value

instance : Inhabited Value := ⟨.null⟩

/-- The number that a scalar denotes; truth values count as 0 and 1. -/
inductive Quantity where
  | exact (n : Int)
  | real (r : Decimal.Reading)
  deriving DecidableEq

/-- A floating-point number without fraction is the whole number. -/
def Quantity.ofFloat (x : Float) : Quantity :=
  match Decimal.Reading.of x with
  | .finite negative m e =>
    let signed (n : Nat) : Int := if negative then -(n : Int) else n
    if e ≥ 0 then .exact (signed (m * Nat.pow 2 e.toNat))
    else if m % Nat.pow 2 (-e).toNat == 0 then .exact (signed (m / Nat.pow 2 (-e).toNat))
    else .real (.finite negative m e)
  | r => .real r

def quantity? : Value → Option Quantity
  | bool b => some (.exact (if b then 1 else 0))
  | int n => some (.exact n)
  | float x => some (.ofFloat x)
  | _ => none

/-- Whether two scalars are the same key of a map: numbers and moments by value, everything else by
kind and content. -/
def sameKey (a b : Value) : Bool :=
  match a.quantity?, b.quantity? with
  | some p, some q => p == q
  | none, none => match a, b with
    | null, null => true
    | text s, text t => s == t
    | bytes s, bytes t => s == t
    | date s, date t => s == t
    | moment s, moment t => s.same t
    | _, _ => false
  | _, _ => false

/-- Null, false, zero and what is empty count as false. -/
def truthy : Value → Bool
  | null => false
  | bool b => b
  | int n => n != 0
  | float x => !(x == 0)
  | text s => !s.isEmpty
  | bytes s => !s.isEmpty
  | list items => !items.isEmpty
  | map entries => !entries.isEmpty
  | set items => !items.isEmpty
  | _ => true

def kindName : Value → String
  | null => "NoneType"
  | bool _ => "bool"
  | int _ => "int"
  | float _ => "float"
  | text _ => "str"
  | bytes _ => "bytes"
  | date _ => "date"
  | moment _ => "datetime"
  | list _ => "list"
  | map _ => "dict"
  | set _ => "set"
  | pair _ _ => "tuple"

/-- The entry whose key is the given text. -/
def lookup (key : String) : List (Value × Value) → Option Value
  | [] => none
  | (text k, v) :: rest => if k = key then some v else lookup key rest
  | _ :: rest => lookup key rest

/-- Puts an entry into a map: a key keeps its first place and spelling and takes the last value. -/
def put (key value : Value) : List (Value × Value) → List (Value × Value)
  | [] => [(key, value)]
  | (k, v) :: rest => if k.sameKey key then (k, value) :: rest else (k, v) :: put key value rest

def mapOf (entries : List (Value × Value)) : Value :=
  .map (entries.foldl (fun done (k, v) => put k v done) [])

end Value
end WebScript
