import PodPolicy.Text.Digit
import PodPolicy.Text.Blank

/-!
# Integers in text

Two notations are read. The loose one allows white space around the number, a
prefix that names the base, single underscores between digits, and the digits
of any script. The plain one is for decimal integers in manifests: ASCII digits
only, and a fraction of zeros is let through. Neither reads a number of more
digits than can be told, and no longer number is told.
-/

namespace PodPolicy.Numeral

open PodPolicy.Text

/-- Why a text is no integer. -/
inductive IntegerProblem
  | malformed
  | tooLong (digits : Nat)
deriving DecidableEq, Repr

/-- The longest decimal integer that is converted from or to text, in digits. -/
def maxDecimalDigits : Nat := 4300

/-- The least number with more digits than that. -/
def tellingLimit : Nat := Nat.pow 10 maxDecimalDigits

def isTellable (n : Int) : Bool :=
  n.natAbs < tellingLimit

def ofDigits (base : Nat) (digits : List Nat) : Nat :=
  digits.foldl (fun n d => base * n + d) 0

def splitSign : List Char → Bool × List Char
  | '-' :: rest => (true, rest)
  | '+' :: rest => (false, rest)
  | rest => (false, rest)

def signed (negative : Bool) (n : Nat) : Int :=
  if negative then -n else n

-- -----------------------------------------------------------------------------
-- The loose notation
-- -----------------------------------------------------------------------------

def baseMark? : Nat → Option Char
  | 16 => some 'x'
  | 8 => some 'o'
  | 2 => some 'b'
  | _ => none

/-- Drops `0x`, `0o` or `0b` where it names the base, with one underscore after it. -/
def dropBasePrefix (base : Nat) (cs : List Char) : List Char :=
  match cs with
  | '0' :: mark :: rest =>
    if baseMark? base = some mark.toLower then
      match rest with
      | '_' :: more => more
      | _ => rest
    else cs
  | _ => cs

def looseDigit? (base : Nat) (c : Char) : Option Nat :=
  match digitValue? c <|> basedDigit? c with
  | some d => if d < base then some d else none
  | none => none

def isLoosePart (base : Nat) (c : Char) : Bool :=
  c == '_' || (looseDigit? base c).isSome

/-- Underscores stand between digits, one at a time. -/
def areSpaced : List Char → Bool
  | [] => true
  | ['_'] => false
  | '_' :: '_' :: _ => false
  | _ :: rest => areSpaced rest

/-- Only in a base that is no power of two is the length limited. -/
def isLengthLimited (base : Nat) : Bool :=
  base ≠ 2 ∧ base ≠ 8 ∧ base ≠ 16

/-- The digits at the start, taken for their length before what follows them. -/
def readInteger (base : Nat) (s : String) : Except IntegerProblem Int :=
  let (negative, body) := splitSign (s.toList.dropWhile isWhite)
  let body := dropBasePrefix base body
  let part := body.takeWhile (isLoosePart base)
  let digits := part.filterMap (looseDigit? base)
  if part.head? = some '_' || !areSpaced part then .error .malformed
  else if isLengthLimited base && maxDecimalDigits < digits.length then
    .error (.tooLong digits.length)
  else if digits.isEmpty || (body.dropWhile (isLoosePart base)).any (!isWhite ·) then
    .error .malformed
  else .ok (signed negative (ofDigits base digits))

-- -----------------------------------------------------------------------------
-- The plain notation
-- -----------------------------------------------------------------------------

def asciiDigit? (c : Char) : Option Nat :=
  if '0' ≤ c ∧ c ≤ '9' then some (c.toNat - '0'.toNat) else none

def isAscii19 (c : Char) : Bool :=
  '1' ≤ c && c ≤ '9'

/-- Zero, or digits of which the first is not zero, and nothing else. The length
is limited before what follows the digits is looked at. -/
def readBareNatural (cs : List Char) : Except IntegerProblem Nat :=
  match cs with
  | ['0'] => .ok 0
  | c :: _ =>
    if isAscii19 c then
      let digits := cs.takeWhile fun d => (asciiDigit? d).isSome
      if maxDecimalDigits < digits.length then .error (.tooLong digits.length)
      else if digits.length = cs.length then .ok (ofDigits 10 (cs.filterMap asciiDigit?))
      else .error .malformed
    else .error .malformed
  | [] => .error .malformed

def readBareInteger (cs : List Char) : Except IntegerProblem Int :=
  match cs with
  | '-' :: rest => (readBareNatural rest).map fun n => -n
  | _ => (readBareNatural cs).map fun n => n

/-- What is left when zeros and underscores are dropped after a zero. The last
character stays if there is no other, and so does the one before a point. A sign
may follow as well as a digit. -/
def afterZeros (last : Char) : List Char → Option (List Char)
  | [] => some [last]
  | c :: rest =>
    if c = '0' ∨ c = '_' then afterZeros c rest
    else if isAscii19 c ∨ c = '-' then some (c :: rest)
    else if c = '.' then some (last :: c :: rest)
    else none

def dropZeros : List Char → Option (List Char)
  | [] => none
  | c :: rest =>
    if c = '0' then afterZeros c rest
    else if isAscii19 c then some (c :: rest)
    else none

/-- Drops a point and the zeros after it, of which there must be some. -/
def dropEmptyFraction (cs : List Char) : List Char :=
  match cs.dropWhile (· ≠ '.') with
  | '.' :: zeros =>
    if !zeros.isEmpty && zeros.all (· == '0') then cs.takeWhile (· ≠ '.') else cs
  | _ => cs

def dropUnderscores (cs : List Char) : List Char :=
  if cs.head? ≠ some '_' && areSpaced cs then cs.filter (· ≠ '_') else cs

/-- The bare form of a number with white space around it, a sign, zeros in
front, a fraction of zeros or underscores. -/
def bareForm? (cs : List Char) : Option (List Char) :=
  let (negative, body) := splitSign (trimBy isWhite cs)
  (dropZeros body).map fun body =>
    let bare := dropUnderscores (dropEmptyFraction body)
    if negative then '-' :: bare else bare

def readPlainInteger (s : String) : Except IntegerProblem Int :=
  match readBareInteger s.toList with
  | .error .malformed =>
    match bareForm? s.toList with
    | some bare => readBareInteger bare
    | none => .error .malformed
  | result => result

end PodPolicy.Numeral
