/-!
# Base 64

Four characters of the alphabet write three octets. Other characters are passed
over, and reading stops where enough padding fills up a group.
-/

namespace PodPolicy.Text

def sextet? (c : Char) : Option Nat :=
  if 'A' ≤ c ∧ c ≤ 'Z' then some (c.toNat - 'A'.toNat)
  else if 'a' ≤ c ∧ c ≤ 'z' then some (c.toNat - 'a'.toNat + 26)
  else if '0' ≤ c ∧ c ≤ '9' then some (c.toNat - '0'.toNat + 52)
  else if c = '+' then some 62
  else if c = '/' then some 63
  else none

/-- The characters that count before a group is filled up with padding; whether
it is, and how many of a group's characters are there. -/
structure Base64Text where
  sextets : List Nat
  isPadded : Bool

/-- `filled` counts the characters of the group so far, `pads` the padding after them. -/
def base64Text (filled pads : Nat) : List Char → Base64Text
  | [] => ⟨[], false⟩
  | c :: rest =>
    match sextet? c with
    | some n =>
      let more := base64Text ((filled + 1) % 4) 0 rest
      { more with sextets := n :: more.sextets }
    | none =>
      if c = '=' ∧ 2 ≤ filled then
        if 4 ≤ filled + pads + 1 then ⟨[], true⟩ else base64Text filled (pads + 1) rest
      else base64Text filled pads rest

def sextetOctets : List Nat → List UInt8
  | a :: b :: c :: d :: rest =>
    (4 * a + b / 16).toUInt8 :: (16 * (b % 16) + c / 4).toUInt8 :: (64 * (c % 4) + d).toUInt8 ::
      sextetOctets rest
  | [a, b, c] => [(4 * a + b / 16).toUInt8, (16 * (b % 16) + c / 4).toUInt8]
  | [a, b] => [(4 * a + b / 16).toUInt8]
  | _ => []

def base64? (cs : List Char) : Option (List UInt8) :=
  let t := base64Text 0 0 cs
  if t.isPadded || t.sextets.length % 4 = 0 then some (sextetOctets t.sextets) else none

example : base64? "aGk=".toList = some [0x68, 0x69] := by decide
example : base64? "aGk".toList = none := by decide

end PodPolicy.Text
