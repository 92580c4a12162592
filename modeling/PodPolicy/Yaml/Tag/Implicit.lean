import PodPolicy.Yaml.Tag
import PodPolicy.Yaml.Scalar.Time

/-!
# Tags of plain scalars

The tag of a scalar without one of its own is told by its text: words for truth
and nothing, numbers in several notations, times, and the two keys of mappings
that are not what they seem. All else is text.
-/

namespace PodPolicy.Yaml

open Numeral

namespace Tag

def boolWords : List String :=
  ["yes", "Yes", "YES", "no", "No", "NO", "true", "True", "TRUE", "false", "False", "FALSE",
   "on", "On", "ON", "off", "Off", "OFF"]

def nullWords : List String :=
  ["~", "null", "Null", "NULL"]

def infinityWords : List String := [".inf", ".Inf", ".INF"]
def nanWords : List String := [".nan", ".NaN", ".NAN"]

-- -----------------------------------------------------------------------------
-- Digits
-- -----------------------------------------------------------------------------

def isDigitOf (base : Nat) (c : Char) : Bool :=
  (Text.basedDigit? c).any (· < base)

def isPlace (base : Nat) (c : Char) : Bool :=
  isDigitOf base c || c = '_'

def arePlaces (base : Nat) (cs : List Char) : Bool :=
  !cs.isEmpty && cs.all (isPlace base)

def isDecimal (cs : List Char) : Bool :=
  cs.head?.any isDecimalDigit && cs.all (isPlace 10)

def sixties (cs : List Char) : List (List Char) :=
  cs.splitOn ':'

def isSixtieth : List Char → Bool
  | [d] => isDecimalDigit d
  | [d, e] => '0' ≤ d && d ≤ '5' && isDecimalDigit e
  | _ => false

def isInSixties (cs : List Char) : Bool :=
  match sixties cs with
  | first :: second :: more => isDecimal first && (second :: more).all isSixtieth
  | _ => false

-- -----------------------------------------------------------------------------
-- Integers
-- -----------------------------------------------------------------------------

def startsAboveZero (cs : List Char) : Bool :=
  cs.head?.any fun c => '1' ≤ c && c ≤ '9'

/-- An integer without its sign: binary, hexadecimal, octal after a zero,
decimal, or in sixties. -/
def isMagnitude (cs : List Char) : Bool :=
  match cs with
  | '0' :: 'b' :: rest => arePlaces 2 rest
  | '0' :: 'x' :: rest => arePlaces 16 rest
  | ['0'] => true
  | '0' :: rest => arePlaces 8 rest
  | _ => startsAboveZero cs && (isDecimal cs || isInSixties cs)

def isInteger (cs : List Char) : Bool :=
  isMagnitude (splitSign cs).2

-- -----------------------------------------------------------------------------
-- Doubles
-- -----------------------------------------------------------------------------

def isPower : List Char → Bool
  | [] => true
  | mark :: sign :: digits =>
    (mark = 'e' || mark = 'E') && (sign = '+' || sign = '-') &&
      !digits.isEmpty && digits.all isDecimalDigit
  | _ => false

/-- What stands after the point: digits and underscores, then perhaps a power. -/
def isTail (cs : List Char) : Bool :=
  isPower (cs.dropWhile (isPlace 10))

/-- A number with a point in it. Without digits before the point it has no sign
and a digit right after the point. -/
def hasPoint (isSigned : Bool) (cs : List Char) : Bool :=
  let whole := cs.takeWhile (· ≠ '.')
  match cs.dropWhile (· ≠ '.') with
  | _ :: tail =>
    if whole.isEmpty then !isSigned && tail.head?.any isDecimalDigit && isTail tail
    else (isDecimal whole && isTail tail) || (isInSixties whole && tail.all (isPlace 10))
  | [] => false

def isDouble (cs : List Char) : Bool :=
  let body := (splitSign cs).2
  let isSigned := body.length < cs.length
  hasPoint isSigned body || infinityWords.contains (String.ofList body) ||
    (!isSigned && nanWords.contains (String.ofList body))

-- -----------------------------------------------------------------------------
-- Tags
-- -----------------------------------------------------------------------------

def ofPlain (s : String) : Tag :=
  let cs := dropFinalBreak s.toList
  let word := String.ofList cs
  if s.isEmpty then .null
  else if boolWords.contains word then .bool
  else if isDouble cs then .double
  else if isInteger cs then .int
  else if word = "<<" then .merge
  else if nullWords.contains word then .null
  else if isTime s then .time
  else if word = "=" then .wholeValue
  else if ["!", "&", "*"].contains word then .other (commonStart ++ "yaml")
  else .text

end Tag

end PodPolicy.Yaml
