import PodPolicy.Yaml.Cursor
import PodPolicy.Yaml.Problem
import PodPolicy.Numeral.Integer
import PodPolicy.Text.Encoding

/-!
# Quoted scalars

Lines of a quoted scalar are folded: a single line break is a space, of several
the first is dropped, and blanks around them count for nothing. In double quotes
a backslash escapes; in single quotes a doubled quote is a quote.
-/

namespace PodPolicy.Yaml

open Text Numeral

/-- The text of a line break and of the breaks in the empty lines after it. -/
def foldBreaks (first : Char) (more : List Char) : List Char :=
  if first ≠ '\n' then first :: more
  else if more.isEmpty then [' ']
  else more

-- -----------------------------------------------------------------------------
-- Escapes
-- -----------------------------------------------------------------------------

def simpleEscape? : Char → Option Char
  | '0' => some '\x00'
  | 'a' => some '\x07'
  | 'b' => some '\x08'
  | 't' => some '\t'
  | '\t' => some '\t'
  | 'n' => some '\n'
  | 'v' => some '\x0b'
  | 'f' => some '\x0c'
  | 'r' => some '\r'
  | 'e' => some '\x1b'
  | ' ' => some ' '
  | '"' => some '"'
  | '\\' => some '\\'
  | '/' => some '/'
  | 'N' => some '\x85'
  | '_' => some '\xa0'
  | 'L' => some '\u2028'
  | 'P' => some '\u2029'
  | _ => none

def codeLength? : Char → Option Nat
  | 'x' => some 2
  | 'u' => some 4
  | 'U' => some 8
  | _ => none

def checkCode (n : Nat) : Except Stop Nat :=
  if 0x7fffffff < n then .error (.fault .codeOutOfWord)
  else if 0x10ffff < n then .error (.fault .codeOutOfRange)
  else .ok n

def readCode (length : Nat) (p : Cursor) : Except Stop (Nat × Cursor) := do
  let digits := (p.rest.take length).filterMap fun c => (basedDigit? c).filter (· < 16)
  require (digits.length = length) .unknownEscape
  let code ← checkCode (ofDigits 16 digits)
  return (code, p.skip length)

def readEmptyLines (fuel : Nat) (p : Cursor) : Except Stop (List Char × Cursor) :=
  match fuel with
  | 0 => .ok ([], p)
  | fuel + 1 => do
    require (!p.isAtSeparator) .separatorInText
    let p := p.skipRun isGap
    match p.lineBreak? with
    | some (c, p) =>
      let (more, p) ← readEmptyLines fuel p
      return (c :: more, p)
    | none => return ([], p)

def codes (cs : List Char) : List Nat :=
  cs.map Char.toNat

/-- The code points for what follows a backslash. An escaped line break is dropped. -/
def readEscape (p : Cursor) : Except Stop (List Nat × Cursor) :=
  match p.peek? with
  | none => refuse .unknownEscape
  | some c =>
    match simpleEscape? c, codeLength? c, p.lineBreak? with
    | some e, _, _ => .ok (codes [e], p.step)
    | none, some length, _ => do
      let (code, p) ← readCode length p.step
      return ([code], p)
    | none, none, some (_, p) => do
      let (breaks, p) ← readEmptyLines (p.left + 1) p
      return (codes breaks, p)
    | none, none, none => refuse .unknownEscape

-- -----------------------------------------------------------------------------
-- Quotes
-- -----------------------------------------------------------------------------

inductive Quote
  | single
  | double
deriving DecidableEq, Repr

def Quote.char : Quote → Char
  | .single => '\''
  | .double => '"'

def readGap (p : Cursor) : Except Stop (List Char × Cursor) :=
  let blanks := p.run isGap
  let p := p.skip blanks.length
  match p.lineBreak? with
  | some (c, p) => do
    let (more, p) ← readEmptyLines (p.left + 1) p
    return (foldBreaks c more, p)
  | none => if p.rest.isEmpty then refuse .unclosedText else .ok (blanks, p)

/-- Reads up to the closing quote. `done` holds the code points that were read,
last first, and `fuel` bounds the pieces that the text can have. -/
def readQuotedFrom (quote : Quote) (fuel : Nat) (done : List Nat) (p : Cursor) :
    Except Stop (String × Cursor) :=
  match fuel with
  | 0 => refuse .unclosedText
  | fuel + 1 =>
    match p.rest with
    | [] => refuse .unclosedText
    | c :: rest =>
      if c = quote.char then
        if quote = .single ∧ rest.head? = some quote.char then
          readQuotedFrom quote fuel (c.toNat :: done) (p.skip 2)
        else .ok (String.ofList (charsOfCodes done.reverse), p.step)
      else if quote = .double ∧ c = '\\' then do
        let (piece, p) ← readEscape p.step
        readQuotedFrom quote fuel (piece.reverse ++ done) p
      else if isGap c || isBreak c then do
        let (piece, p) ← readGap p
        readQuotedFrom quote fuel ((codes piece).reverse ++ done) p
      else readQuotedFrom quote fuel (c.toNat :: done) p.step

def readQuoted (quote : Quote) (p : Cursor) : Except Stop (String × Cursor) :=
  readQuotedFrom quote (p.left + 1) [] p.step

end PodPolicy.Yaml
