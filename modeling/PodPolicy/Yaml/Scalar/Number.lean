import PodPolicy.Numeral.Integer
import PodPolicy.Numeral.Double
import PodPolicy.Yaml.Problem

/-!
# Numbers in scalars

Underscores count for nothing. A leading zero makes an integer octal, and colons
separate places of sixty.
-/

namespace PodPolicy.Yaml

open Text Numeral

/-- The characters that count, without a sign; `true` stands for minus. -/
def numberBody (cs : List Char) : Except Stop (Bool × List Char) :=
  let cs := cs.filter (· ≠ '_')
  if cs.isEmpty then .error (.fault .emptyNumber) else .ok (splitSign cs)

def integerIn (base : Nat) (cs : List Char) : Except Stop Int :=
  match readInteger base (String.ofList cs) with
  | .ok n => .ok n
  | .error _ => .error (.fault .unreadableNumber)

def integerInSixties (cs : List Char) : Except Stop Int := do
  let places ← (cs.splitOn ':').mapM (integerIn 10)
  return places.foldl (fun n place => 60 * n + place) 0

def magnitude (cs : List Char) : Except Stop Int :=
  match cs with
  | [] => .error (.fault .emptyNumber)
  | ['0'] => .ok 0
  | '0' :: 'b' :: rest => integerIn 2 rest
  | '0' :: 'x' :: rest => integerIn 16 rest
  | '0' :: _ => integerIn 8 cs
  | _ => if cs.contains ':' then integerInSixties cs else integerIn 10 cs

def readInt (s : String) : Except Stop Int := do
  let (negative, body) ← numberBody s.toList
  let n ← magnitude body
  return if negative then -n else n

-- -----------------------------------------------------------------------------
-- Doubles
-- -----------------------------------------------------------------------------

def doubleIn (cs : List Char) : Except Stop Double :=
  match Double.read (String.ofList cs) with
  | some d => .ok d
  | none => .error (.fault .unreadableNumber)

/-- Adds up places of sixty, the lowest first, rounding after each step. -/
def sumSixties (sum : Double) (unit : Nat) : List Double → Except Stop Double
  | [] => .ok sum
  | place :: rest =>
    match Double.ofInt unit with
    | .infinite _ => .error (.fault .oversizedNumber)
    | weight => sumSixties (sum.plus (place.times weight)) (60 * unit) rest

def doubleInSixties (cs : List Char) : Except Stop Double := do
  let places ← (cs.splitOn ':').mapM doubleIn
  sumSixties (.finite false 0 Double.minExponent) 1 places.reverse

def doubleMagnitude (cs : List Char) : Except Stop Double :=
  let word := String.ofList cs
  if word = ".inf" then .ok (.infinite false)
  else if word = ".nan" then .ok .nan
  else if cs.contains ':' then doubleInSixties cs
  else doubleIn cs

def readDouble (s : String) : Except Stop Double := do
  let (negative, body) ← numberBody (lower s).toList
  let d ← doubleMagnitude body
  return if negative then d.negate else d

end PodPolicy.Yaml
