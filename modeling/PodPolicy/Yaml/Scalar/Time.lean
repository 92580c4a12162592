import PodPolicy.Calendar
import PodPolicy.Numeral.Integer
import PodPolicy.Yaml.Character
import PodPolicy.Yaml.Problem

/-!
# Times in scalars

A date alone, or a date, a time of day to the second with an optional fraction,
and an optional offset. Parts of a date and hours may leave out a leading zero.
-/

namespace PodPolicy.Yaml

open Numeral

/-- The parts of a time as they are written. -/
structure WrittenTime where
  year : Nat
  month : Nat
  day : Nat
  /-- Whether month and day have two digits each. -/
  isPadded : Bool
  clock : Option (Nat × Nat × Nat) := none
  fraction : List Nat := []
  offset : Option Int := none
deriving DecidableEq, Repr

namespace WrittenTime

/-- At least `least` and at most `most` digits, and the rest. -/
def digits? (least most : Nat) (cs : List Char) : Option (List Nat × List Char) :=
  let found := (cs.take most).takeWhile isDecimalDigit
  if found.length < least then none
  else some (found.filterMap asciiDigit?, cs.drop found.length)

def after? (mark : Char) : List Char → Option (List Char)
  | c :: rest => if c = mark then some rest else none
  | [] => none

def readOffset? (sign : Int) (cs : List Char) : Option Int := do
  let (hours, cs) ← digits? 1 2 cs
  let wholeHours : Int := sign * (60 * ofDigits 10 hours)
  if cs.isEmpty then return wholeHours
  let (minutes, cs) ← digits? 2 2 (← after? ':' cs)
  if cs.isEmpty then return wholeHours + sign * ofDigits 10 minutes else none

/-- What follows the time of day: nothing, or an offset after optional blanks. -/
def readZone? (t : WrittenTime) (cs : List Char) : Option WrittenTime :=
  match cs with
  | [] => some t
  | _ =>
    match cs.dropWhile isGap with
    | ['Z'] => some { t with offset := some 0 }
    | '+' :: rest => (readOffset? 1 rest).map fun minutes => { t with offset := some minutes }
    | '-' :: rest => (readOffset? (-1) rest).map fun minutes => { t with offset := some minutes }
    | _ => none

def readFraction (cs : List Char) : List Nat × List Char :=
  match cs with
  | '.' :: rest =>
    let found := rest.takeWhile isDecimalDigit
    (found.filterMap asciiDigit?, rest.drop found.length)
  | _ => ([], cs)

def readClock? (t : WrittenTime) (cs : List Char) : Option WrittenTime := do
  let (hour, cs) ← digits? 1 2 cs
  let (minute, cs) ← digits? 2 2 (← after? ':' cs)
  let (second, cs) ← digits? 2 2 (← after? ':' cs)
  let (fraction, cs) := readFraction cs
  readZone? { t with
    clock := some (ofDigits 10 hour, ofDigits 10 minute, ofDigits 10 second)
    fraction := fraction } cs

/-- A time of day after `T` or blanks. -/
def readRest? (t : WrittenTime) (cs : List Char) : Option WrittenTime :=
  match cs with
  | [] => some t
  | c :: rest =>
    if c = 'T' ∨ c = 't' then readClock? t rest
    else if isGap c then readClock? t (rest.dropWhile isGap)
    else none

def readAll? (cs : List Char) : Option WrittenTime := do
  let (year, cs) ← digits? 4 4 cs
  let (month, cs) ← digits? 1 2 (← after? '-' cs)
  let (day, cs) ← digits? 1 2 (← after? '-' cs)
  readRest? {
    year := ofDigits 10 year
    month := ofDigits 10 month
    day := ofDigits 10 day
    isPadded := month.length = 2 && day.length = 2 } cs

/-- The first six places of a fraction, in microseconds. -/
def microsecond (t : WrittenTime) : Nat :=
  let places := t.fraction.take 6
  ofDigits 10 (places ++ List.replicate (6 - places.length) 0)

end WrittenTime

/-- One line feed at the end of a scalar does not count. -/
def dropFinalBreak (cs : List Char) : List Char :=
  if cs.getLast? = some '\n' then cs.dropLast else cs

def writtenTime? (s : String) : Option WrittenTime :=
  WrittenTime.readAll? (dropFinalBreak s.toList)

/-- Whether a plain scalar is a time. A date alone must be padded. -/
def isTime (s : String) : Bool :=
  (writtenTime? s).any fun t => t.clock.isSome || t.isPadded

def WrittenTime.value (t : WrittenTime) : Except Stop (Date ⊕ DateTime) :=
  let date : Date := ⟨t.year, t.month, t.day⟩
  match t.clock with
  | none => if date.IsValid then .ok (.inl date) else .error (.fault .impossibleTime)
  | some (hour, minute, second) =>
    let time : DateTime := ⟨date, hour, minute, second, t.microsecond, t.offset⟩
    if time.IsValid then .ok (.inr time) else .error (.fault .impossibleTime)

end PodPolicy.Yaml
