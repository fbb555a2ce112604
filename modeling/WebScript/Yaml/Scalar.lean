import WebScript.Decimal.Read
import WebScript.Text.Case
import WebScript.Value.Show
import WebScript.Yaml.Content

namespace WebScript.Yaml.Scalar

/-- The kinds of scalars. A merge key, a default-value key and an indicator denote no value of their
own. -/
inductive Kind where
  | null
  | bool
  | int
  | float
  | timestamp
  | text
  | binary
  | merge
  | default
  | indicator
  deriving DecidableEq, Repr

def isSpacedDigit (c : Char) : Bool :=
  c.isDigit || c == '_'

/-- One or two digits after each of at least one colons, the first of two below six; then `rest`. -/
def sexagesimalTail (rest : List Char → Bool) : List Char → Bool
  | ':' :: a :: b :: more =>
    ('0' ≤ a && a ≤ '5' && b.isDigit && (rest more || sexagesimalTail rest more)) ||
      (a.isDigit && (rest (b :: more) || sexagesimalTail rest (b :: more)))
  | [':', a] => a.isDigit && rest []
  | _ => false

def unsign : List Char → List Char
  | '-' :: rest => rest
  | '+' :: rest => rest
  | rest => rest

def nonEmptyAll (p : Char → Bool) (cs : List Char) : Bool :=
  !cs.isEmpty && cs.all p

/-- Binary, octal, decimal, hexadecimal and sexagesimal whole numbers, with underscores among the
digits. -/
def isInt (content : List Char) : Bool :=
  match unsign content with
  | '0' :: 'b' :: rest => nonEmptyAll (fun c => c == '0' || c == '1' || c == '_') rest
  | '0' :: 'x' :: rest => nonEmptyAll (fun c => (Number.hexValue? c).isSome || c == '_') rest
  | '0' :: rest => rest.all fun c => ('0' ≤ c && c ≤ '7') || c == '_'
  | c :: rest =>
    c.isDigit && (rest.dropWhile isSpacedDigit == [] ||
      sexagesimalTail (· == []) (rest.dropWhile isSpacedDigit))
  | [] => false

def isExponent : List Char → Bool
  | [] => true
  | e :: s :: rest =>
    (e == 'e' || e == 'E') && (s == '-' || s == '+') && nonEmptyAll Char.isDigit rest
  | _ => false

/-- Numbers with a point, sexagesimal ones, infinities and the one that is no number. -/
def isFloat (content : List Char) : Bool :=
  let named (names : List String) (cs : List Char) : Bool := names.contains (.ofList cs)
  let fraction (cs : List Char) : Bool := isExponent (cs.dropWhile isSpacedDigit)
  let signed : Bool := match unsign content with
    | '.' :: rest => named ["inf", "Inf", "INF"] rest
    | c :: rest =>
      c.isDigit && match rest.dropWhile isSpacedDigit with
        | '.' :: rest => fraction rest
        | rest =>
          sexagesimalTail (fun
            | '.' :: rest => rest.all isSpacedDigit
            | _ => false) rest
    | [] => false
  let pointed : Bool := match content with
    | '.' :: c :: rest => (c.isDigit && fraction rest) || named ["nan", "NaN", "NAN"] (c :: rest)
    | _ => false
  signed || pointed

/-- The parts of a written date or moment. -/
structure Stamp where
  year : Nat
  month : Nat
  day : Nat
  time : Option (Nat × Nat × Nat × List Char × Option Int) := none

def number (cs : List Char) : Nat :=
  Number.ofDigits 10 (cs.map fun c => c.toNat - 48)

/-- Between `least` and `most` digits in front, and the rest. -/
def spanNumber? (least most : Nat) (cs : List Char) : Option (List Char × List Char) :=
  let digits := (cs.take most).takeWhile Char.isDigit
  if digits.length < least then none else some (digits, cs.drop digits.length)

def after? (c : Char) : List Char → Option (List Char)
  | a :: rest => if a = c then some rest else none
  | [] => none

/-- The offset at the end of a moment, in minutes. -/
def offset? (cs : List Char) : Option (Option Int) :=
  match cs.dropWhile fun c => c == ' ' || c == '\t' with
  | [] => if cs.isEmpty then some none else none
  | ['Z'] => some (some 0)
  | s :: rest =>
    if s == '-' || s == '+' then do
      let (hours, rest) ← spanNumber? 1 2 rest
      let minutes ← if rest.isEmpty then some [] else do
        let (minutes, rest) ← spanNumber? 2 2 (← after? ':' rest)
        if rest.isEmpty then some minutes else none
      let size : Int := number hours * 60 + number minutes
      return some (if s == '-' then -size else size)
    else none

/-- A date, or a date and a time. -/
def stamp? (cs : List Char) : Option Stamp := do
  let (year, rest) ← spanNumber? 4 4 cs
  let (month, rest) ← spanNumber? 1 2 (← after? '-' rest)
  let (day, rest) ← spanNumber? 1 2 (← after? '-' rest)
  let date : Stamp := ⟨number year, number month, number day, none⟩
  if rest.isEmpty then return date
  let rest ← match rest with
    | 'T' :: rest | 't' :: rest => some rest
    | c :: rest =>
      if c == ' ' || c == '\t' then some (rest.dropWhile fun c => c == ' ' || c == '\t') else none
    | [] => none
  let (hour, rest) ← spanNumber? 1 2 rest
  let (minute, rest) ← spanNumber? 2 2 (← after? ':' rest)
  let (second, rest) ← spanNumber? 2 2 (← after? ':' rest)
  let (fraction, rest) := match rest with
    | '.' :: rest => (rest.takeWhile Char.isDigit, rest.dropWhile Char.isDigit)
    | rest => ([], rest)
  let offset ← offset? rest
  return { date with time := some (number hour, number minute, number second, fraction, offset) }

/-- A plain date has two digits each for month and day; with a time one digit is enough. -/
def isTimestamp (cs : List Char) : Bool :=
  match stamp? cs with
  | some s => s.time.isSome || cs.length == 10
  | none => false

def truthWords : List (String × Bool) :=
  [("yes", true), ("no", false), ("true", true), ("false", false), ("on", true), ("off", false)]

/-- A truth word in small letters, capitals, or with a first capital. -/
def isTruthWord (content : String) : Bool :=
  truthWords.any fun (w, _) => content == w || content == w.capitalize || content == w.toUpper

/-- The content of a scalar without a line feed that ends it, unless there is nothing else. -/
def withoutLineEnd (cs : List Char) : List Char :=
  if cs.length > 1 && cs.getLast? == some '\n' then cs.dropLast else cs

def kindOf (content : String) : Kind :=
  let cs := withoutLineEnd content.toList
  let word := String.ofList cs
  if ["", "~", "null", "Null", "NULL"].contains word then .null
  else if isTruthWord word then .bool
  else if isFloat cs then .float
  else if isInt cs then .int
  else if word == "<<" then .merge
  else if isTimestamp cs then .timestamp
  else if word == "=" then .default
  else if ["!", "&", "*"].contains word then .indicator
  else .text

/-- Digits of a base with a sign, and in front of them perhaps the letter of the base. -/
def readBase? (base : Nat) (letter : Char) (text : List Char) : Option Int := do
  let (negative, body) := Number.splitSign (Text.trimWhere Number.isMargin text)
  let body := match body with
    | '0' :: c :: rest => if c.toLower == letter then rest else body
    | body => body
  let digits ← body.mapM fun c => ((Number.digitValue? c).or (Number.hexValue? c)).filter (· < base)
  if digits.isEmpty then none
  let n : Int := Number.ofDigits base digits
  return if negative then -n else n

def orBad {α : Type} : Option α → Except Fault α
  | some a => .ok a
  | none => .error .badValue

/-- Parts between colons as digits of base sixty. -/
def sexagesimal (parts : List Int) : Int :=
  parts.foldl (fun n d => 60 * n + d) 0

/-- The sign in front of a number without its underscores, and what follows it. -/
def signed (content : List Char) : Except Fault (Bool × List Char) :=
  match content.filter (· != '_') with
  | [] => .error .emptyNumber
  | '-' :: rest => .ok (true, rest)
  | '+' :: rest => .ok (false, rest)
  | rest => .ok (false, rest)

def intValue (content : List Char) : Except Fault Int := do
  let (negative, body) ← signed content
  let n ← match body with
    | [] => throw .emptyNumber
    | ['0'] => pure 0
    | '0' :: 'b' :: rest => orBad (readBase? 2 'b' rest)
    | '0' :: 'x' :: rest => orBad (readBase? 16 'x' rest)
    | '0' :: _ => orBad (readBase? 8 'o' body)
    | _ =>
      if body.contains ':' then do
        let parts ← (Text.pieces ':' body).mapM fun p => orBad (Number.read? p)
        pure (sexagesimal parts)
      else orBad (Number.read? body)
  return if negative then -n else n

/-- The most parts between colons for which the worth of the first is still a float. -/
def maxSexagesimalParts : Nat := 174

/-- The sum of the parts, the last one first, each worth sixty times the one after it. -/
def sexagesimalFloat (parts : List Float) : Except Fault Float :=
  let step (state : Float × Nat) (x : Float) : Float × Nat :=
    (state.1 + x * .ofNat state.2, state.2 * 60)
  if parts.length > maxSexagesimalParts then .error .tooLarge
  else .ok (parts.reverse.foldl step (0.0, 1)).1

def floatValue (content : List Char) : Except Fault Float := do
  let (negative, body) ← signed (content.map Char.toLower)
  let sign : Float := if negative then -1.0 else 1.0
  if body == ".inf".toList then return sign * (1.0 / 0.0)
  else if body == ".nan".toList then return 0.0 / 0.0
  else if body.contains ':' then
    let parts ← (Text.pieces ':' body).mapM fun p => orBad (Decimal.read? p)
    return sign * (← sexagesimalFloat parts)
  else return sign * (← orBad (Decimal.read? body))

def timestampValue (content : List Char) : Except Fault Value :=
  match stamp? (withoutLineEnd content) with
  | none => .error .notATimestamp
  | some s => match Date.of? s.year s.month s.day with
    | none => .error .badValue
    | some date => match s.time with
      | none => .ok (.date date)
      | some (hour, minute, second, fraction, offset) =>
        let micro := number ((fraction ++ List.replicate 6 '0').take 6)
        match Moment.of? date hour minute second micro offset with
        | some m => .ok (.moment m)
        | none => .error .badValue

def base64Value? (c : Char) : Option Nat :=
  if 'A' ≤ c ∧ c ≤ 'Z' then some (c.toNat - 65)
  else if 'a' ≤ c ∧ c ≤ 'z' then some (c.toNat - 71)
  else if '0' ≤ c ∧ c ≤ '9' then some (c.toNat + 4)
  else if c = '+' then some 62
  else if c = '/' then some 63
  else none

/-- Bytes in base 64. Characters outside the alphabet are passed over, and padding that completes a
group ends the text. `place` counts the digits of the group, `carry` holds its unused bits. -/
def base64 : List Char → (place carry pads : Nat) → Option (List UInt8)
  | [], place, _, _ => if place == 0 then some [] else none
  | c :: rest, place, carry, pads =>
    if c == '=' then
      if place ≥ 2 then if place + pads + 1 ≥ 4 then some [] else base64 rest place carry (pads + 1)
      else base64 rest place carry pads
    else match base64Value? c with
      | none => base64 rest place carry pads
      | some v =>
        match place with
        | 0 => base64 rest 1 v 0
        | 1 => (base64 rest 2 (v % 16) 0).map ((carry * 4 + v / 16).toUInt8 :: ·)
        | 2 => (base64 rest 3 (v % 4) 0).map ((carry * 16 + v / 4).toUInt8 :: ·)
        | _ => (base64 rest 0 0 0).map ((carry * 64 + v).toUInt8 :: ·)

def value (content : String) : Kind → Except Fault Value
  | .null => .ok .null
  | .bool => match truthWords.lookup (Text.lower content) with
    | some b => .ok (.bool b)
    | none => .error .unknownTruthValue
  | .int => (intValue content.toList).map .int
  | .float => (floatValue content.toList).map .float
  | .timestamp => timestampValue content.toList
  | .text => .ok (.text content)
  | .binary =>
    if content.toList.any (·.toNat ≥ 128) then .error .malformed
    else match base64 content.toList 0 0 0 with
      | some bytes => .ok (.bytes bytes)
      | none => .error .malformed
  | .merge | .default | .indicator => .error .malformed

end WebScript.Yaml.Scalar
