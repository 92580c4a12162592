/-!
# Octets as text

UTF-8 is strict. UTF-16 and UTF-32 come in both byte orders; a lone surrogate is
no character.
-/

namespace PodPolicy.Text

inductive Encoding
  | utf8
  | utf16 (bigEndian : Bool)
  | utf32 (bigEndian : Bool)
deriving DecidableEq, Repr

def charOfCode? (n : Nat) : Option Char :=
  if n.isValidChar then some (Char.ofNat n) else none

def octetsValue (octets : List UInt8) : Nat :=
  octets.foldl (fun n octet => 256 * n + octet.toNat) 0

def wordValue (bigEndian : Bool) (octets : List UInt8) : Nat :=
  octetsValue (if bigEndian then octets else octets.reverse)

def utf8? (octets : List UInt8) : Option String :=
  String.fromUTF8? ⟨octets.toArray⟩

def words16? (bigEndian : Bool) : List UInt8 → Option (List Nat)
  | [] => some []
  | a :: b :: rest => (words16? bigEndian rest).map (wordValue bigEndian [a, b] :: ·)
  | _ => none

def words32? (bigEndian : Bool) : List UInt8 → Option (List Nat)
  | [] => some []
  | a :: b :: c :: d :: rest =>
    (words32? bigEndian rest).map (wordValue bigEndian [a, b, c, d] :: ·)
  | _ => none

def isHighSurrogate (n : Nat) : Bool := 0xd800 ≤ n && n < 0xdc00
def isLowSurrogate (n : Nat) : Bool := 0xdc00 ≤ n && n < 0xe000

/-- The code point of a surrogate pair. -/
def joinSurrogates (high low : Nat) : Nat :=
  0x10000 + (high - 0xd800) * 0x400 + (low - 0xdc00)

def joinWords16? : List Nat → Option (List Char)
  | [] => some []
  | n :: rest =>
    if isHighSurrogate n then
      match rest with
      | low :: more => do
        if !isLowSurrogate low then none
        let c ← charOfCode? (joinSurrogates n low)
        let cs ← joinWords16? more
        return c :: cs
      | [] => none
    else do
      let c ← charOfCode? n
      let cs ← joinWords16? rest
      return c :: cs

/-- The characters of code points. Surrogates side by side are one character. A
lone one is none; the replacement character stands in for it. -/
def charsOfCodes : List Nat → List Char
  | [] => []
  | [n] => [(charOfCode? n).getD '\ufffd']
  | n :: low :: rest =>
    if isHighSurrogate n && isLowSurrogate low then
      (charOfCode? (joinSurrogates n low)).getD '\ufffd' :: charsOfCodes rest
    else (charOfCode? n).getD '\ufffd' :: charsOfCodes (low :: rest)

def Encoding.decode? (octets : List UInt8) : Encoding → Option String
  | .utf8 => utf8? octets
  | .utf16 bigEndian =>
    (words16? bigEndian octets).bind fun ws => (joinWords16? ws).map String.ofList
  | .utf32 bigEndian =>
    (words32? bigEndian octets).bind fun ws => (ws.mapM charOfCode?).map String.ofList

/-- The encoding of a document that starts with an ASCII character, told by its
byte order mark or by where zero octets stand, and the octets after the mark. -/
def detectEncoding (octets : List UInt8) : Encoding × List UInt8 :=
  match octets with
  | 0x00 :: 0x00 :: 0xfe :: 0xff :: rest => (.utf32 true, rest)
  | 0xff :: 0xfe :: 0x00 :: 0x00 :: rest => (.utf32 false, rest)
  | 0xfe :: 0xff :: rest => (.utf16 true, rest)
  | 0xff :: 0xfe :: rest => (.utf16 false, rest)
  | 0xef :: 0xbb :: 0xbf :: rest => (.utf8, rest)
  | a :: b :: c :: d :: _ =>
    if a = 0 then (if b = 0 then .utf32 true else .utf16 true, octets)
    else if b = 0 then (if c = 0 ∧ d = 0 then .utf32 false else .utf16 false, octets)
    else (.utf8, octets)
  | [a, b] =>
    if a = 0 then (.utf16 true, octets)
    else if b = 0 then (.utf16 false, octets)
    else (.utf8, octets)
  | _ => (.utf8, octets)

def decodeDetected? (octets : List UInt8) : Option String :=
  let (encoding, body) := detectEncoding octets
  encoding.decode? body

end PodPolicy.Text
