import PodPolicy.Yaml.Cursor
import PodPolicy.Yaml.Token
import PodPolicy.Numeral.Integer
import PodPolicy.Text.Encoding

/-!
# Anchors, tags and directives

What is said about a node or a document before it starts. Each reader takes the
cursor at the indicator.
-/

namespace PodPolicy.Yaml

open Text Numeral

-- -----------------------------------------------------------------------------
-- Anchors
-- -----------------------------------------------------------------------------

def endsAnchor (c : Option Char) : Bool :=
  endsToken c || c.any "?:,]\x7d%@\x60".toList.contains

def readAnchor (p : Cursor) : Except Stop (String × Cursor) := do
  let p := p.step
  let name := p.run isWordChar
  let p := p.skip name.length
  require (!name.isEmpty && endsAnchor p.peek?) .anchorName
  return (String.ofList name, p)

-- -----------------------------------------------------------------------------
-- Tags
-- -----------------------------------------------------------------------------

def readHandle (p : Cursor) (problem : Problem) : Except Stop (String × Cursor) :=
  match p.rest with
  | '!' :: ' ' :: _ => .ok ("!", p.step)
  | '!' :: rest =>
    let name := rest.takeWhile isWordChar
    if rest[name.length]? = some '!' then
      .ok ("!" ++ String.ofList name ++ "!", p.skip (name.length + 2))
    else refuse problem
  | _ => refuse problem

/-- Octets of a name in which `%` and two digits stand for an octet. -/
def uriOctets : List Char → Option (List UInt8)
  | [] => some []
  | ['%'] => none
  | ['%', _] => none
  | '%' :: a :: b :: rest => do
    let high ← (basedDigit? a).filter (· < 16)
    let low ← (basedDigit? b).filter (· < 16)
    let octets ← uriOctets rest
    return (16 * high + low).toUInt8 :: octets
  | c :: rest => (uriOctets rest).map (c.toNat.toUInt8 :: ·)

def readUri (p : Cursor) (problem : Problem) : Except Stop (String × Cursor) := do
  let written := p.run isUriChar
  require (!written.isEmpty) problem
  match (uriOctets written).bind utf8? with
  | some uri => return (uri, p.skip written.length)
  | none => refuse problem

/-- A tag in angle brackets is a name, `!` alone is no name, and any other tag
is a handle and the rest of a name. -/
def readTagBody (p : Cursor) : Except Stop (WrittenTag × Cursor) := do
  if p.peekAt? 1 = some '<' then
    let (uri, p) ← readUri (p.skip 2) .tagName
    require (p.peek? = some '>') .tagName
    return (⟨none, uri⟩, p.step)
  else if endsToken (p.peekAt? 1) then
    return (⟨none, "!"⟩, p.step)
  else
    let word := p.step.run fun c => !endsWord (some c)
    let (handle, p) ← if word.contains '!' then readHandle p .tagName else pure ("!", p.step)
    let (suffix, p) ← readUri p .tagName
    return (⟨some handle, suffix⟩, p)

def readTag (p : Cursor) : Except Stop (WrittenTag × Cursor) := do
  let (tag, p) ← readTagBody p
  require (endsWord p.peek?) .tagName
  return (tag, p)

-- -----------------------------------------------------------------------------
-- Directives
-- -----------------------------------------------------------------------------

def readVersionPart (p : Cursor) : Except Stop (Nat × Cursor) := do
  let digits := p.run isDecimalDigit
  require (!digits.isEmpty) .directive
  if maxDecimalDigits < digits.length then .error (.fault .unreadableNumber)
  else return (digitsValue digits, p.skip digits.length)

def readVersion (p : Cursor) : Except Stop (Directive × Cursor) := do
  let (major, p) ← readVersionPart (p.skipRun isSpace)
  require (p.peek? = some '.') .directive
  let (_, p) ← readVersionPart p.step
  require (endsWord p.peek?) .directive
  return (.version major, p)

def readHandleDirective (p : Cursor) : Except Stop (Directive × Cursor) := do
  let (name, p) ← readHandle (p.skipRun isSpace) .directive
  require (p.peek? = some ' ') .directive
  let (uri, p) ← readUri (p.skipRun isSpace) .directive
  require (endsWord p.peek?) .directive
  return (.handle name uri, p)

def readDirectiveBody (name : String) (p : Cursor) : Except Stop (Directive × Cursor) :=
  if name = "YAML" then readVersion p
  else if name = "TAG" then readHandleDirective p
  else .ok (.reserved, p.skipLine)

def readDirective (p : Cursor) : Except Stop (Directive × Cursor) := do
  let p := p.step
  let name := p.run isWordChar
  let p := p.skip name.length
  require (!name.isEmpty && endsWord p.peek?) .directive
  let (directive, p) ← readDirectiveBody (String.ofList name) p
  match p.skipLineEnd? with
  | some p => return (directive, p)
  | none => refuse .directive

end PodPolicy.Yaml
