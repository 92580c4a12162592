import PodPolicy.Numeral.Decimal
import PodPolicy.Text.Digit
import PodPolicy.Text.Blank
import PodPolicy.Text.Lowercase

/-!
# Double-precision numbers

Doubles as data: a finite one is `± mantissa · 2 ^ exponent`, normalised so
that equal numbers of one sign are equal data. Every operation takes the exact
rational result and rounds it once, to the nearest double, ties to even.
-/

namespace PodPolicy.Numeral

open PodPolicy.Text

inductive Double
  | nan
  | infinite (negative : Bool)
  | finite (negative : Bool) (mantissa : Nat) (exponent : Int)
deriving DecidableEq, Repr

namespace Double

def mantissaBits : Nat := 53
def minExponent : Int := -1074
def maxExponent : Int := 971

def isZero : Double → Bool
  | .finite _ 0 _ => true
  | _ => false

def isNegative : Double → Bool
  | .nan => false
  | .infinite negative => negative
  | .finite negative _ _ => negative

def negate : Double → Double
  | .nan => .nan
  | .infinite negative => .infinite (!negative)
  | .finite negative mantissa exponent => .finite (!negative) mantissa exponent

-- -----------------------------------------------------------------------------
-- Rounding
-- -----------------------------------------------------------------------------

def quotientAt (num den : Nat) (exponent : Int) : Nat :=
  divHalfEven (num * Nat.pow 2 (-exponent).toNat) (den * Nat.pow 2 exponent.toNat)

/-- The exponent at which `num / den` has all bits of a mantissa before the point. -/
def fittingExponent (num den : Nat) : Int :=
  let guess : Int := num.log2 - den.log2 - (mantissaBits - 1 : Nat)
  let isShort :=
    num * Nat.pow 2 (-guess).toNat < Nat.pow 2 (mantissaBits - 1) * (den * Nat.pow 2 guess.toNat)
  max minExponent (if isShort then guess - 1 else guess)

/-- The double nearest to `± num / den`. -/
def ofRatio (negative : Bool) (num den : Nat) : Double :=
  if num = 0 then .finite negative 0 minExponent
  else
    let exponent := fittingExponent num den
    let mantissa := quotientAt num den exponent
    let (mantissa, exponent) :=
      if mantissa = Nat.pow 2 mantissaBits then (Nat.pow 2 (mantissaBits - 1), exponent + 1)
      else (mantissa, exponent)
    if maxExponent < exponent then .infinite negative
    else .finite negative mantissa exponent

/-- The double nearest to `± digits · 10 ^ exponent`. Numbers that are far out
of range are not multiplied out. -/
def ofScientific (negative : Bool) (digits : Nat) (exponent : Int) : Double :=
  let leading : Int := digitCount digits + exponent
  if digits = 0 ∨ leading < -330 then .finite negative 0 minExponent
  else if 330 < leading then .infinite negative
  else ofRatio negative (digits * Nat.pow 10 exponent.toNat) (Nat.pow 10 (-exponent).toNat)

def ofInt (n : Int) : Double :=
  ofRatio (n < 0) n.natAbs 1

-- -----------------------------------------------------------------------------
-- Exact values
-- -----------------------------------------------------------------------------

/-- Magnitude of a finite double as numerator and denominator. -/
def ratio (mantissa : Nat) (exponent : Int) : Nat × Nat :=
  (mantissa * Nat.pow 2 exponent.toNat, Nat.pow 2 (-exponent).toNat)

/-- The integer that a double is equal to. -/
def toInt? : Double → Option Int
  | .finite negative mantissa exponent =>
    let (num, den) := ratio mantissa exponent
    if num % den = 0 then some (if negative then -(num / den : Nat) else (num / den : Nat))
    else none
  | _ => none

/-- Equality of numbers: zeros are equal, and nan equals nothing. -/
def sameNumber : Double → Double → Bool
  | .nan, _ => false
  | _, .nan => false
  | a, b => a == b || (a.isZero && b.isZero)

def isNan : Double → Bool
  | .nan => true
  | _ => false

def times : Double → Double → Double
  | .finite s m e, .finite t n f =>
    let (num₁, den₁) := ratio m e
    let (num₂, den₂) := ratio n f
    ofRatio (s != t) (num₁ * num₂) (den₁ * den₂)
  | a, b =>
    if a.isNan || b.isNan || a.isZero || b.isZero then .nan
    else .infinite (a.isNegative != b.isNegative)

def plus : Double → Double → Double
  | .finite s m e, .finite t n f =>
    let (num₁, den₁) := ratio m e
    let (num₂, den₂) := ratio n f
    let signed (negative : Bool) (k : Nat) : Int := if negative then -k else k
    let sum := signed s (num₁ * den₂) + signed t (num₂ * den₁)
    ofRatio (if sum = 0 then s && t else sum < 0) sum.natAbs (den₁ * den₂)
  | .infinite s, .infinite t => if s = t then .infinite s else .nan
  | .infinite s, .finite .. => .infinite s
  | .finite .., .infinite t => .infinite t
  | .nan, _ => .nan
  | _, .nan => .nan

-- -----------------------------------------------------------------------------
-- Reading
-- -----------------------------------------------------------------------------

/-- A power of ten after `e`: an optional sign and one or more digits. -/
def readExponent : List Char → Option Int
  | [] => some 0
  | c :: rest =>
    if c = 'e' ∨ c = 'E' then
      let (negative, digits) : Bool × List Char := match rest with
        | '-' :: more => (true, more)
        | '+' :: more => (false, more)
        | more => (false, more)
      if digits.isEmpty ∨ !digits.all isDigit then none
      else some (if negative then -digitsValue digits else digitsValue digits)
    else none

def readMagnitude (negative : Bool) (cs : List Char) : Option Double :=
  let whole := cs.takeWhile isDigit
  let rest := cs.dropWhile isDigit
  let (fraction, rest) := match rest with
    | '.' :: more => (more.takeWhile isDigit, more.dropWhile isDigit)
    | _ => ([], rest)
  if whole.isEmpty && fraction.isEmpty then none
  else (readExponent rest).map fun power =>
    ofScientific negative (digitsValue (whole ++ fraction)) (power - fraction.length)

def read (s : String) : Option Double :=
  let cs := trimBy isWhite s.toList
  let (negative, body) : Bool × List Char := match cs with
    | '-' :: rest => (true, rest)
    | '+' :: rest => (false, rest)
    | _ => (false, cs)
  match lowerAscii (String.ofList body) with
  | "inf" => some (.infinite negative)
  | "infinity" => some (.infinite negative)
  | "nan" => some .nan
  | _ => readMagnitude negative body

end Double

end PodPolicy.Numeral
