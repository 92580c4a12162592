import PodPolicy.Value
import PodPolicy.Text.Base64
import PodPolicy.Yaml.Tag.Implicit
import PodPolicy.Yaml.Scalar.Number

/-!
# Values of scalars

What the text of a scalar means under its tag.
-/

namespace PodPolicy.Yaml

open Text

def trueWords : List String := ["yes", "true", "on"]
def falseWords : List String := ["no", "false", "off"]

def readBool (s : String) : Except Stop Bool :=
  let word := lower s
  if trueWords.contains word then .ok true
  else if falseWords.contains word then .ok false
  else .error (.fault .unknownTruthWord)

def readTime (s : String) : Except Stop Value :=
  match writtenTime? s with
  | none => .error (.fault .unreadableTime)
  | some t => t.value.map fun
    | .inl date => .date date
    | .inr time => .dateTime time

/-- Octets are written in ASCII. -/
def readOctets (s : String) : Except Stop (List UInt8) :=
  match if s.toList.all (·.toNat < 0x80) then base64? s.toList else none with
  | some octets => .ok octets
  | none => refuse .octets

def scalarValue (tag : Tag) (s : String) : Except Stop Value :=
  match tag with
  | .null => .ok .null
  | .bool => (readBool s).map .bool
  | .int => (readInt s).map .int
  | .double => (readDouble s).map .double
  | .text => .ok (.text s)
  | .octets => (readOctets s).map .bytes
  | .time => readTime s
  | .list | .mapping | .set | .pairs => refuse .wrongKind
  | .merge | .wholeValue | .other _ => refuse .unknownTag

end PodPolicy.Yaml
