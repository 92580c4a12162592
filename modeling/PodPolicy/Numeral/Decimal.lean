/-!
# Decimal numbers

A decimal keeps the exponent it was written with, so `1.50` and `1.5` differ
although they compare equal, and zero has a sign. Products are exact; rounding
to a number of significant digits is a step of its own, ties to even.
-/

namespace PodPolicy.Numeral

structure Decimal where
  negative : Bool
  coefficient : Nat
  exponent : Int
deriving DecidableEq, Repr

/-- How many digits a number has; zero has one. -/
def digitCount (n : Nat) : Nat :=
  (Nat.toDigits 10 n).length

/-- Quotient rounded to the nearest integer, a half to the even neighbour. -/
def divHalfEven (num den : Nat) : Nat :=
  let quotient := num / den
  let twice := 2 * (num % den)
  if twice < den then quotient
  else if den < twice then quotient + 1
  else if quotient % 2 = 0 then quotient
  else quotient + 1

namespace Decimal

def ofNat (n : Nat) : Decimal := ⟨false, n, 0⟩

def times (a b : Decimal) : Decimal :=
  ⟨a.negative != b.negative, a.coefficient * b.coefficient, a.exponent + b.exponent⟩

/-- Keeps a decimal of at most `digits` digits; a longer one loses its last digits. -/
def round (digits : Nat) (a : Decimal) : Decimal :=
  let excess := digitCount a.coefficient - digits
  if excess = 0 then a
  else
    let kept := divHalfEven a.coefficient (Nat.pow 10 excess)
    if kept = Nat.pow 10 digits then ⟨a.negative, Nat.pow 10 (digits - 1), a.exponent + excess + 1⟩
    else ⟨a.negative, kept, a.exponent + excess⟩

/-- The number in units of `10 ^ unit`, for a unit no larger than its own. -/
def inUnits (unit : Int) (a : Decimal) : Int :=
  let scaled := a.coefficient * Nat.pow 10 (a.exponent - unit).toNat
  if a.negative then -scaled else scaled

/-- Order of values; signs of zero and trailing zeros do not count. -/
def compare (a b : Decimal) : Ordering :=
  let unit := min a.exponent b.exponent
  Ord.compare (a.inUnits unit) (b.inUnits unit)

-- -----------------------------------------------------------------------------
-- Text
-- -----------------------------------------------------------------------------

def adjusted (a : Decimal) : Int :=
  digitCount a.coefficient - 1 + a.exponent

def isPlain (a : Decimal) : Bool :=
  a.exponent ≤ 0 && -6 ≤ a.adjusted

def pointed (digits : List Char) (places : Nat) : List Char :=
  if places = 0 then digits
  else
    let padded := List.replicate (places + 1 - digits.length) '0' ++ digits
    padded.take (padded.length - places) ++ '.' :: padded.drop (padded.length - places)

def exponentText (e : Int) : List Char :=
  'E' :: (if e < 0 then '-' else '+') :: Nat.toDigits 10 e.natAbs

def chars (a : Decimal) : List Char :=
  let digits := Nat.toDigits 10 a.coefficient
  let magnitude :=
    if a.isPlain then pointed digits (-a.exponent).toNat
    else pointed digits (digits.length - 1) ++ exponentText a.adjusted
  if a.negative then '-' :: magnitude else magnitude

def toText (a : Decimal) : String :=
  String.ofList a.chars

end Decimal

end PodPolicy.Numeral
