import WebScript.Number.Whole

namespace WebScript

/-- Decimal digits, with zeros in front up to `width`. -/
def padded (width n : Nat) : String :=
  let digits := Number.natText n
  .ofList (List.replicate (width - digits.length) '0' ++ digits)

structure Date where
  year : Nat
  month : Nat
  day : Nat
  deriving DecidableEq, Repr

def isLeap (year : Nat) : Bool :=
  year % 4 == 0 && (year % 100 != 0 || year % 400 == 0)

def daysIn (year month : Nat) : Nat :=
  if month == 2 then if isLeap year then 29 else 28
  else if month == 4 || month == 6 || month == 9 || month == 11 then 30 else 31

def Date.of? (year month day : Nat) : Option Date :=
  if 1 ≤ year ∧ year ≤ 9999 ∧ 1 ≤ month ∧ month ≤ 12 ∧ 1 ≤ day ∧ day ≤ daysIn year month then
    some ⟨year, month, day⟩
  else none

/-- A time on a day; the offset from universal time is in minutes. -/
structure Moment where
  date : Date
  hour : Nat
  minute : Nat
  second : Nat
  micro : Nat
  offset : Option Int
  deriving DecidableEq, Repr

/-- The moment, if the clock has it. The offset is less than a day either way. -/
def Moment.of? (date : Date) (hour minute second micro : Nat) (offset : Option Int) :
    Option Moment :=
  if hour < 24 ∧ minute < 60 ∧ second < 60 ∧ micro < 1000000 ∧
      (offset.all fun o => -1440 < o && o < 1440) then
    some ⟨date, hour, minute, second, micro, offset⟩
  else none

/-- The number of a day, counted from the first of the year 1. -/
def Date.ordinal (d : Date) : Nat :=
  let years := d.year - 1
  let months := (List.range (d.month - 1)).foldl (fun n m => n + daysIn d.year (m + 1)) 0
  365 * years + years / 4 - years / 100 + years / 400 + months + d.day

/-- The microseconds up to a moment, in universal time where it has an offset. -/
def Moment.instant (m : Moment) : Int :=
  let minutes : Int := (m.date.ordinal * 24 + m.hour) * 60 + m.minute - m.offset.getD 0
  (minutes * 60 + m.second) * 1000000 + m.micro

/-- Whether two moments are the same, which one with an offset and one without are not. -/
def Moment.same (a b : Moment) : Bool :=
  a.offset.isSome == b.offset.isSome && a.instant == b.instant

/-- Year, month and day between hyphens. -/
def Date.text (d : Date) : String :=
  s!"{padded 4 d.year}-{padded 2 d.month}-{padded 2 d.day}"

def Date.shown (d : Date) : String :=
  s!"datetime.date({d.year}, {d.month}, {d.day})"

def offsetText (minutes : Int) : String :=
  let size := minutes.natAbs
  (if minutes < 0 then "-" else "+") ++ padded 2 (size / 60) ++ ":" ++ padded 2 (size % 60)

/-- The date, the time with microseconds where there are any, and the offset. -/
def Moment.text (m : Moment) : String :=
  let time := s!"{padded 2 m.hour}:{padded 2 m.minute}:{padded 2 m.second}"
  let fraction := if m.micro == 0 then "" else "." ++ padded 6 m.micro
  let zone := match m.offset with
    | some minutes => offsetText minutes
    | none => ""
  m.date.text ++ " " ++ time ++ fraction ++ zone

/-- An offset as whole days and seconds, the seconds never negative. -/
def offsetShown (minutes : Int) : String :=
  if minutes == 0 then "datetime.timezone.utc"
  else if minutes > 0 then s!"datetime.timezone(datetime.timedelta(seconds={minutes * 60}))"
  else s!"datetime.timezone(datetime.timedelta(days=-1, seconds={86400 + minutes * 60}))"

/-- The parts of a moment in brackets; seconds and microseconds only up to the last that counts. -/
def Moment.shown (m : Moment) : String :=
  let head := [m.date.year, m.date.month, m.date.day, m.hour, m.minute]
  let tail := if m.micro != 0 then [m.second, m.micro] else if m.second != 0 then [m.second] else []
  let parts := ", ".intercalate ((head ++ tail).map fun n => .ofList (Number.natText n))
  let zone := match m.offset with
    | some minutes => ", tzinfo=" ++ offsetShown minutes
    | none => ""
  s!"datetime.datetime({parts}{zone})"

end WebScript
