/-!
# Dates and times

Days of the proleptic Gregorian calendar from year 1 to 9999, times of day with
microseconds, and offsets from universal time in minutes. A time without an
offset is no instant.
-/

namespace PodPolicy

structure Date where
  year : Nat
  month : Nat
  day : Nat
deriving DecidableEq, Repr

structure DateTime where
  date : Date
  hour : Nat
  minute : Nat
  second : Nat
  microsecond : Nat
  offset : Option Int
deriving DecidableEq, Repr

namespace Date

def isLeapYear (year : Nat) : Bool :=
  year % 4 == 0 && (year % 100 != 0 || year % 400 == 0)

def monthLength (year month : Nat) : Nat :=
  if month = 2 then (if isLeapYear year then 29 else 28)
  else if month = 4 ∨ month = 6 ∨ month = 9 ∨ month = 11 then 30
  else 31

def IsValid (d : Date) : Prop :=
  1 ≤ d.year ∧ d.year ≤ 9999 ∧ 1 ≤ d.month ∧ d.month ≤ 12 ∧
    1 ≤ d.day ∧ d.day ≤ monthLength d.year d.month

instance (d : Date) : Decidable d.IsValid := by
  unfold IsValid
  infer_instance

/-- Days since the first of January of year 1. -/
def dayNumber (d : Date) : Nat :=
  let past := d.year - 1
  let months := (List.range (d.month - 1)).map fun i => monthLength d.year (i + 1)
  365 * past + past / 4 - past / 100 + past / 400 + months.foldl (· + ·) 0 + (d.day - 1)

end Date

namespace DateTime

/-- Offsets are shorter than a day. -/
def IsValid (t : DateTime) : Prop :=
  t.date.IsValid ∧ t.hour < 24 ∧ t.minute < 60 ∧ t.second < 60 ∧
    t.microsecond < 1000000 ∧ ∀ minutes ∈ t.offset, minutes.natAbs < 24 * 60

instance (t : DateTime) : Decidable t.IsValid := by
  unfold IsValid
  infer_instance

/-- Microseconds since the start of year 1, in universal time if an offset is given. -/
def ticks (t : DateTime) : Int :=
  let minutes : Int := (t.date.dayNumber * 24 + t.hour) * 60 + t.minute - t.offset.getD 0
  (minutes * 60 + t.second) * 1000000 + t.microsecond

/-- Two times with offsets are the same if the instants are; an instant never
equals a time without an offset. -/
def same (a b : DateTime) : Bool :=
  a.offset.isSome == b.offset.isSome && a.ticks == b.ticks

end DateTime

-- -----------------------------------------------------------------------------
-- Text
-- -----------------------------------------------------------------------------

def padded (width n : Nat) : String :=
  let digits := Nat.toDigits 10 n
  String.ofList (List.replicate (width - digits.length) '0' ++ digits)

def Date.toText (d : Date) : String :=
  s!"{padded 4 d.year}-{padded 2 d.month}-{padded 2 d.day}"

def offsetText (minutes : Int) : String :=
  let sign := if minutes < 0 then "-" else "+"
  let size := minutes.natAbs
  s!"{sign}{padded 2 (size / 60)}:{padded 2 (size % 60)}"

def DateTime.toText (separator : String) (t : DateTime) : String :=
  let fraction := if t.microsecond = 0 then "" else "." ++ padded 6 t.microsecond
  let offset := match t.offset with
    | none => ""
    | some minutes => offsetText minutes
  s!"{t.date.toText}{separator}{padded 2 t.hour}:{padded 2 t.minute}:{padded 2 t.second}{fraction}{offset}"

end PodPolicy
