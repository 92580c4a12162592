import PodPolicy.Yaml.Character

/-!
# Places in a text

A cursor is what is left of a text, how much that is, and where it starts. Lines end with any
of the line breaks, and a carriage return with the line feed after it is one. A
byte order mark takes no column.
-/

namespace PodPolicy.Yaml

structure Cursor where
  rest : List Char
  left : Nat
  index : Nat
  line : Nat
  column : Nat
deriving Repr

namespace Cursor

def start (s : String) : Cursor :=
  ⟨s.toList, s.length, 0, 0, 0⟩

def peek? (p : Cursor) : Option Char :=
  p.rest.head?

def peekAt? (p : Cursor) (n : Nat) : Option Char :=
  p.rest[n]?

/-- The cursor after the next character; the end stays where it is. -/
def step (p : Cursor) : Cursor :=
  match p.rest with
  | [] => p
  | c :: rest =>
    if isBreak c && !(c = '\r' && rest.head? = some '\n') then
      ⟨rest, p.left - 1, p.index + 1, p.line + 1, 0⟩
    else
      let column := if c = byteOrderMark then p.column else p.column + 1
      ⟨rest, p.left - 1, p.index + 1, p.line, column⟩

def skip (p : Cursor) : Nat → Cursor
  | 0 => p
  | n + 1 => p.step.skip n

def run (p : Cursor) (keep : Char → Bool) : List Char :=
  p.rest.takeWhile keep

def skipRun (p : Cursor) (keep : Char → Bool) : Cursor :=
  p.skip (p.run keep).length

def skipLine (p : Cursor) : Cursor :=
  p.skipRun fun c => !isBreak c

/-- A line break that comes next, as it counts in text, and the cursor after it. -/
def lineBreak? (p : Cursor) : Option (Char × Cursor) :=
  match p.rest with
  | '\r' :: '\n' :: _ => some ('\n', p.skip 2)
  | c :: _ =>
    if c = '\u2028' || c = '\u2029' then some (c, p.step)
    else if isBreak c then some ('\n', p.step)
    else none
  | [] => none

def skipBreak (p : Cursor) : Cursor :=
  ((p.lineBreak?).map (·.2)).getD p

def isAtMark (p : Cursor) (mark : Char) : Bool :=
  match p.rest with
  | a :: b :: c :: rest => a = mark && b = mark && c = mark && endsToken rest.head?
  | _ => false

def isAtSeparator (p : Cursor) : Bool :=
  p.isAtMark '-' || p.isAtMark '.'

/-- Blank space and a comment up to the end of the line, which may hold no more. -/
def skipLineEnd? (p : Cursor) : Option Cursor :=
  let p := p.skipRun isSpace
  let p := if p.peek? = some '#' then p.skipLine else p
  if endsLine p.peek? then some p.skipBreak else none

end Cursor

end PodPolicy.Yaml
