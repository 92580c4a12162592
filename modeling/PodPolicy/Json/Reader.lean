import PodPolicy.Value
import PodPolicy.Numeral.Integer
import PodPolicy.Text.Encoding

/-!
# Reading JSON

A reader for JSON text. Integers are limited in their digits alone, other numbers
are doubles, the words for nan and infinity are let through, and of entries with
one name the last counts. Collections may be nested to any depth. A refusal says
where: the position is counted in characters.
-/

namespace PodPolicy

open Text Numeral

namespace Json

inductive Problem
  | expectedValue
  | expectedName
  | expectedColon
  | expectedComma
  | controlCharacter
  | unterminatedText
  | unknownEscape
  | extraData
  | tooManyDigits
deriving DecidableEq, Repr

structure Error where
  problem : Problem
  position : Nat
deriving DecidableEq, Repr

/-- A refusal inside the reader: the problem, and what had not been read. -/
structure Stop where
  problem : Problem
  rest : List Char

def isSpace (c : Char) : Bool :=
  c = ' ' || c = '\t' || c = '\n' || c = '\r'

def skipSpace (cs : List Char) : List Char :=
  cs.dropWhile isSpace

-- -----------------------------------------------------------------------------
-- Text
-- -----------------------------------------------------------------------------

def hexDigit? (c : Char) : Option Nat :=
  (basedDigit? c).filter (· < 16)

/-- Four hexadecimal digits. -/
def hex4? (a b c d : Char) : Option Nat := do
  return ofDigits 16 [← hexDigit? a, ← hexDigit? b, ← hexDigit? c, ← hexDigit? d]

def simpleEscape? : Char → Option Char
  | '"' => some '"'
  | '\\' => some '\\'
  | '/' => some '/'
  | 'b' => some '\x08'
  | 'f' => some '\x0c'
  | 'n' => some '\n'
  | 'r' => some '\r'
  | 't' => some '\t'
  | _ => none

/-- Reads what follows an opening quote, up to the closing one. `opening` is the
text from the opening quote on; `done` holds what was read, last first. An
escape by code needs a character after it. -/
def readUnits (opening : List Char) (done : List Nat) :
    List Char → Except Stop (List Nat × List Char)
  | [] => .error ⟨.unterminatedText, opening⟩
  | '"' :: rest => .ok (done.reverse, rest)
  | ['\\'] => .error ⟨.unterminatedText, opening⟩
  | '\\' :: 'u' :: a :: b :: c :: d :: e :: rest =>
    match hex4? a b c d with
    | none => .error ⟨.unknownEscape, 'u' :: a :: b :: c :: d :: e :: rest⟩
    | some n => readUnits opening (n :: done) (e :: rest)
  | '\\' :: 'u' :: rest => .error ⟨.unknownEscape, 'u' :: rest⟩
  | '\\' :: c :: rest =>
    match simpleEscape? c with
    | some e => readUnits opening (e.toNat :: done) rest
    | none => .error ⟨.unknownEscape, '\\' :: c :: rest⟩
  | c :: rest =>
    if c.toNat < 0x20 then .error ⟨.controlCharacter, c :: rest⟩
    else readUnits opening (c.toNat :: done) rest

def readText (opening rest : List Char) : Except Stop (String × List Char) := do
  let (units, rest) ← readUnits opening [] rest
  return (String.ofList (charsOfCodes units), rest)

-- -----------------------------------------------------------------------------
-- Numbers
-- -----------------------------------------------------------------------------

def isAsciiDigit (c : Char) : Bool :=
  '0' ≤ c && c ≤ '9'

def splitDigits (cs : List Char) : List Char × List Char :=
  (cs.takeWhile isAsciiDigit, cs.dropWhile isAsciiDigit)

/-- A zero stands alone; other integers start with another digit. -/
def splitWhole : List Char → Option (List Char × List Char)
  | '0' :: rest => some (['0'], rest)
  | c :: rest => if isAsciiDigit c then some (splitDigits (c :: rest)) else none
  | [] => none

def splitFraction (cs : List Char) : List Char × List Char :=
  match cs with
  | '.' :: rest =>
    let (digits, more) := splitDigits rest
    if digits.isEmpty then ([], cs) else (digits, more)
  | _ => ([], cs)

/-- The mark of a power counts only with digits after it. -/
def splitPower (cs : List Char) : Option Int × List Char :=
  match cs with
  | c :: rest =>
    if c = 'e' ∨ c = 'E' then
      let (negative, body) := splitSign rest
      let (digits, more) := splitDigits body
      if digits.isEmpty then (none, cs) else (some (signed negative (digitsValue digits)), more)
    else (none, cs)
  | [] => (none, cs)

def readNumber (cs : List Char) : Except Stop (Value × List Char) :=
  let (negative, body) : Bool × List Char := match cs with
    | '-' :: rest => (true, rest)
    | _ => (false, cs)
  match splitWhole body with
  | none => .error ⟨.expectedValue, cs⟩
  | some (whole, rest) =>
    let (fraction, rest) := splitFraction rest
    let (power, rest) := splitPower rest
    if fraction.isEmpty && power.isNone then
      if maxDecimalDigits < whole.length then .error ⟨.tooManyDigits, cs⟩
      else .ok (.int (signed negative (digitsValue whole)), rest)
    else
      .ok (.double (Double.ofScientific negative (digitsValue (whole ++ fraction))
        (power.getD 0 - fraction.length)), rest)

-- -----------------------------------------------------------------------------
-- Values
-- -----------------------------------------------------------------------------

def words : List (List Char × Value) :=
  [("null".toList, .null), ("true".toList, .bool true), ("false".toList, .bool false),
   ("NaN".toList, .double .nan), ("Infinity".toList, .double (.infinite false)),
   ("-Infinity".toList, .double (.infinite true))]

def readAtom (cs : List Char) : Except Stop (Value × List Char) :=
  match words.find? fun word => word.1.isPrefixOf cs with
  | some (word, v) => .ok (v, cs.drop word.length)
  | none => readNumber cs

def readName : List Char → Except Stop (String × List Char)
  | '"' :: rest => readText ('"' :: rest) rest
  | cs => .error ⟨.expectedName, cs⟩

def readColon (cs : List Char) : Except Stop (List Char) :=
  match skipSpace cs with
  | ':' :: rest => .ok (skipSpace rest)
  | rest => .error ⟨.expectedColon, rest⟩

mutual
/-- `fuel` bounds the steps that the text can ask for. -/
def readValue (fuel : Nat) (cs : List Char) : Except Stop (Value × List Char) :=
  match fuel with
  | 0 => .error ⟨.expectedValue, cs⟩
  | fuel + 1 =>
    match cs with
    | [] => .error ⟨.expectedValue, []⟩
    | '"' :: rest => do
      let (s, rest) ← readText cs rest
      return (.text s, rest)
    | '[' :: rest =>
      match skipSpace rest with
      | ']' :: rest => .ok (.list [], rest)
      | rest => do
        let (items, rest) ← readItems fuel rest
        return (.list items, rest)
    | '{' :: rest =>
      match skipSpace rest with
      | '}' :: rest => .ok (.mapping [], rest)
      | rest => do
        let (members, rest) ← readMembers fuel rest
        return (.mapping (Entries.ofList members), rest)
    | _ => readAtom cs
def readItems (fuel : Nat) (cs : List Char) : Except Stop (List Value × List Char) :=
  match fuel with
  | 0 => .error ⟨.expectedValue, cs⟩
  | fuel + 1 => do
    let (item, rest) ← readValue fuel cs
    match skipSpace rest with
    | ']' :: rest => return ([item], rest)
    | ',' :: rest =>
      let (items, rest) ← readItems fuel (skipSpace rest)
      return (item :: items, rest)
    | rest => .error ⟨.expectedComma, rest⟩
def readMembers (fuel : Nat) (cs : List Char) : Except Stop (List (Value × Value) × List Char) :=
  match fuel with
  | 0 => .error ⟨.expectedName, cs⟩
  | fuel + 1 => do
    let (name, rest) ← readName cs
    let rest ← readColon rest
    let (value, rest) ← readValue fuel rest
    match skipSpace rest with
    | '}' :: rest => return ([(.text name, value)], rest)
    | ',' :: rest =>
      let (members, rest) ← readMembers fuel (skipSpace rest)
      return ((.text name, value) :: members, rest)
    | rest => .error ⟨.expectedComma, rest⟩
end

def readWhole (cs : List Char) : Except Stop Value := do
  let (v, rest) ← readValue (2 * cs.length + 2) (skipSpace cs)
  match skipSpace rest with
  | [] => return v
  | rest => .error ⟨.extraData, rest⟩

def read (s : String) : Except Error Value :=
  let cs := s.toList
  match readWhole cs with
  | .ok v => .ok v
  | .error stop => .error ⟨stop.problem, cs.length - stop.rest.length⟩

end Json

end PodPolicy
