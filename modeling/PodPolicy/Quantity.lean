import PodPolicy.Numeral.Decimal
import PodPolicy.Value.Display

/-!
# Resource quantities

A quantity is a decimal number with an optional suffix that multiplies it:
`Gi`, `Mi` and `Ki` are powers of 1024, `m` is a thousandth. Its exact value is
number times multiplier; its canonical value is that product rounded once to
28 significant digits.
-/

namespace PodPolicy

open Numeral Text

namespace Quantity

inductive Suffix
  | gibi
  | mebi
  | kibi
  | milli
deriving DecidableEq, Repr

namespace Suffix

/-- In the order in which they are tried. -/
def all : List Suffix := [.gibi, .mebi, .kibi, .milli]

def chars : Suffix → List Char
  | .gibi => ['G', 'i']
  | .mebi => ['M', 'i']
  | .kibi => ['K', 'i']
  | .milli => ['m']

def multiplier : Suffix → Decimal
  | .gibi => .ofNat 1073741824
  | .mebi => .ofNat 1048576
  | .kibi => .ofNat 1024
  | .milli => ⟨false, 1, -3⟩

end Suffix

/-- The suffix of a text and what stands before it. -/
def splitSuffix (cs : List Char) : List Char × Option Suffix :=
  match Suffix.all.find? fun suffix => suffix.chars.isSuffixOf cs with
  | some suffix => (cs.take (cs.length - suffix.chars.length), some suffix)
  | none => (cs, none)

/-- A text may end in one line feed that does not count. -/
def isLineEnd : List Char → Bool
  | [] => true
  | ['\n'] => true
  | _ => false

def readMagnitude (negative : Bool) (cs : List Char) : Option Decimal :=
  let whole := cs.takeWhile isDigit
  match cs.dropWhile isDigit with
  | '.' :: more =>
    let fraction := more.takeWhile isDigit
    if (whole.isEmpty && fraction.isEmpty) || !isLineEnd (more.dropWhile isDigit) then none
    else some ⟨negative, digitsValue (whole ++ fraction), -fraction.length⟩
  | rest =>
    if whole.isEmpty || !isLineEnd rest then none
    else some ⟨negative, digitsValue whole, 0⟩

def readNumber : List Char → Option Decimal
  | '-' :: rest => readMagnitude true rest
  | '+' :: rest => readMagnitude false rest
  | cs => readMagnitude false cs

/-- Number and multiplier as they are written. -/
structure Reading where
  number : Decimal
  multiplier : Decimal
deriving DecidableEq, Repr

namespace Reading

def exact (r : Reading) : Decimal :=
  r.number.times r.multiplier

def significantDigits : Nat := 28

def value (r : Reading) : Decimal :=
  r.exact.round significantDigits

end Reading

def multiplierOf : Option Suffix → Decimal
  | none => .ofNat 1
  | some suffix => suffix.multiplier

def read? (s : String) : Option Reading :=
  let (body, suffix) := splitSuffix s.toList
  (readNumber body).map fun number => ⟨number, multiplierOf suffix⟩

-- -----------------------------------------------------------------------------
-- Refusals
-- -----------------------------------------------------------------------------

inductive Reason
  | notText
  | notDecimal
deriving DecidableEq, Repr

def Reason.message : Reason → String
  | .notText => "expected a string"
  | .notDecimal => "numeric part is not a decimal number"

/-- A refused quantity; a number is refused in the form of its text. -/
structure Error where
  quantity : Value
  reason : Reason

def Error.message (e : Error) : String :=
  s!"Invalid quantity {e.quantity.literal}: {e.reason.message}"

-- -----------------------------------------------------------------------------
-- Values
-- -----------------------------------------------------------------------------

def parse (s : String) : Except Error Decimal :=
  match read? s with
  | some reading => .ok reading.value
  | none => .error ⟨.text s, .notDecimal⟩

/-- A quantity given as a value: text, or a number by its text. -/
def parseValue : Value → Except Error Decimal
  | .text s => parse s
  | .int n => parse (toString n)
  | .double d => parse d.toText
  | v => .error ⟨v, .notText⟩

/-- The first quantity is read before the second. -/
def compare (a b : Value) : Except Error Ordering := do
  let left ← parseValue a
  let right ← parseValue b
  return left.compare right

def exceeds (quantity ceiling : Value) : Except Error Bool := do
  let order ← compare quantity ceiling
  return order == .gt

end Quantity

end PodPolicy
