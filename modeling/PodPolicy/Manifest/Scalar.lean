import PodPolicy.Manifest.Problem
import PodPolicy.Numeral.Integer
import PodPolicy.Text.Encoding

/-!
# Scalars in a manifest

What counts as a truth value, an integer or a text. Manifests are written by
hand and by tools, so words for truth values, integers in text and numbers
without a fraction are let through, and octets count as the text they encode.
-/

namespace PodPolicy

open Numeral Text

namespace Scalar

/-- Two to the power 63. Doubles stand for integers between its negative and it,
both excluded. -/
def wordLimit : Int := 9223372036854775808

def truthWord? (s : String) : Option Bool :=
  let word := lowerAscii s
  if ["0", "off", "f", "false", "n", "no"].contains word then some false
  else if ["1", "on", "t", "true", "y", "yes"].contains word then some true
  else none

def truthNumber? (n : Int) : Option Bool :=
  if n = 0 then some false else if n = 1 then some true else none

def orCause {α : Type} (cause : Cause) : Option α → Except Cause α
  | some a => .ok a
  | none => .error cause

def wholeWord? (d : Double) : Option Int :=
  d.toInt?.filter fun n => -wordLimit < n ∧ n < wordLimit

def readBool : Value → Except Cause Bool
  | .bool b => .ok b
  | .text s => orCause .unreadableBool (truthWord? s)
  | .bytes octets => orCause .unreadableBool ((utf8? octets).bind truthWord?)
  | .int n =>
    if -wordLimit ≤ n ∧ n < wordLimit then orCause .unreadableBool (truthNumber? n)
    else .error .notBool
  | .double d =>
    match wholeWord? d with
    | some n => orCause .unreadableBool (truthNumber? n)
    | none => .error .notBool
  | _ => .error .notBool

def readIntText (s : String) : Except Cause Int :=
  match readPlainInteger s with
  | .ok n => .ok n
  | .error .malformed => .error .unreadableInt
  | .error (.tooLong _) => .error .oversized

def readIntDouble (d : Double) : Except Cause Int :=
  match d with
  | .finite .. =>
    match d.toInt? with
    | none => .error .fractional
    | some n => if -wordLimit < n ∧ n < wordLimit then .ok n else .error .oversized
  | _ => .error .notFinite

def readInt : Value → Except Cause Int
  | .bool b => .ok (if b then 1 else 0)
  | .int n => .ok n
  | .text s => readIntText s
  | .bytes octets =>
    match utf8? octets with
    | some s => readIntText s
    | none => .error .unreadableInt
  | .double d => readIntDouble d
  | _ => .error .notInt

def readText : Value → Except Cause String
  | .text s => .ok s
  | .bytes octets => orCause .notUnicode (utf8? octets)
  | _ => .error .notText

def spelledOut : Value → Except Cause Value
  | .bool b => .ok (.text (if b then "true" else "false"))
  | .int n => if isTellable n then .ok (.text (toString n)) else .error .untellable
  | .double d => .ok (.text d.toText)
  | v => .ok v

def readQuantity (v : Value) : Except Cause String := do
  readText (← spelledOut v)

/-- A label or annotation without a value is empty. -/
def readLabel : Value → Except Cause String
  | .null => .ok ""
  | v => readQuantity v

end Scalar

end PodPolicy
