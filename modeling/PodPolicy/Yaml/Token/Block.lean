import PodPolicy.Yaml.Token.Quoted

/-!
# Block scalars

Text in lines of one indent, taken as it is or folded. Folding joins two lines
that both start with text. The header says what becomes of the line breaks at
the end, and how deep the indent is where the first line does not show it.
-/

namespace PodPolicy.Yaml

/-- What becomes of the line breaks at the end. -/
inductive Chomping
  /-- All are dropped. -/
  | strip
  /-- The last line keeps its own. -/
  | clip
  /-- All are kept. -/
  | keep
deriving DecidableEq, Repr

structure BlockHeader where
  chomping : Chomping
  indent : Option Nat
deriving DecidableEq, Repr

def readChomping (p : Cursor) : Option Chomping × Cursor :=
  match p.peek? with
  | some '+' => (some .keep, p.step)
  | some '-' => (some .strip, p.step)
  | _ => (none, p)

def readIndent (p : Cursor) : Except Stop (Option Nat × Cursor) :=
  match p.peek?.bind Numeral.asciiDigit? with
  | some 0 => refuse .blockHeader
  | some n => .ok (some n, p.step)
  | none => .ok (none, p)

def readBlockHeader (p : Cursor) : Except Stop (BlockHeader × Cursor) := do
  let (before, p) := readChomping p
  let (indent, p) ← readIndent p
  let (after, p) := if before.isNone && indent.isSome then readChomping p else (none, p)
  require (endsWord p.peek?) .blockHeader
  match p.skipLineEnd? with
  | some p => return (⟨(before <|> after).getD .clip, indent⟩, p)
  | none => refuse .blockHeader

-- -----------------------------------------------------------------------------
-- Lines
-- -----------------------------------------------------------------------------

def skipIndent (indent : Int) (p : Cursor) : Cursor :=
  let missing := (indent - p.column).toNat
  p.skip (min missing (p.run isSpace).length)

def readBlockBreaks (indent : Int) (fuel : Nat) (p : Cursor) : List Char × Cursor :=
  let p := skipIndent indent p
  match fuel, p.lineBreak? with
  | fuel + 1, some (c, p) =>
    let (more, p) := readBlockBreaks indent fuel p
    (c :: more, p)
  | _, _ => ([], p)

/-- The breaks of leading empty lines, and the largest column that a space in
them or before the text leads to. -/
def readLeadingLines (fuel : Nat) (p : Cursor) : List Char × Nat × Cursor :=
  let spaces := p.run isSpace
  let p := p.skip spaces.length
  let column := if spaces.isEmpty then 0 else p.column
  match fuel, p.lineBreak? with
  | fuel + 1, some (c, p) =>
    let (more, deepest, p) := readLeadingLines fuel p
    (c :: more, max column deepest, p)
  | _, _ => ([], column, p)

def Chomping.ending (chomping : Chomping) (lineBreak breaks : List Char) : List Char :=
  match chomping with
  | .strip => []
  | .clip => lineBreak
  | .keep => lineBreak ++ breaks

def joinLines (folded startsWithText nextIsText : Bool) (lineBreak breaks : List Char) :
    List Char :=
  if folded && lineBreak == ['\n'] && startsWithText && nextIsText then
    (if breaks.isEmpty then [' '] else breaks)
  else lineBreak ++ breaks

def startsWithText (p : Cursor) : Bool :=
  p.peek?.any fun c => !isGap c

def readBlockLines (folded : Bool) (chomping : Chomping) (indent : Int) (fuel : Nat)
    (p : Cursor) : List Char × Cursor :=
  let line := p.run fun c => !isBreak c
  let next := p.skip line.length
  let (lineBreak, next) : List Char × Cursor := match next.lineBreak? with
    | some (c, next) => ([c], next)
    | none => ([], next)
  let (breaks, next) := readBlockBreaks indent (next.left + 1) next
  match fuel with
  | 0 => (line, next)
  | fuel + 1 =>
    if next.column = indent ∧ !next.rest.isEmpty then
      let joint := joinLines folded (startsWithText p) (startsWithText next) lineBreak breaks
      let (more, last) := readBlockLines folded chomping indent fuel next
      (line ++ joint ++ more, last)
    else (line ++ chomping.ending lineBreak breaks, next)

def readBlockStart (header : BlockHeader) (parent : Int) (p : Cursor) :
    Int × List Char × Cursor :=
  let least := max 1 (parent + 1)
  match header.indent with
  | some depth =>
    let indent := least + depth - 1
    let (breaks, p) := readBlockBreaks indent (p.left + 1) p
    (indent, breaks, p)
  | none =>
    let (breaks, deepest, p) := readLeadingLines (p.left + 1) p
    (max least deepest, breaks, p)

/-- Reads a block scalar whose indicator comes next, inside a collection at the
column `parent`. -/
def readBlock (folded : Bool) (parent : Int) (p : Cursor) : Except Stop (String × Cursor) := do
  let (header, p) ← readBlockHeader p.step
  let (indent, breaks, p) := readBlockStart header parent p
  if p.column = indent ∧ !p.rest.isEmpty then
    let (text, p) := readBlockLines folded header.chomping indent (p.left + 1) p
    return (String.ofList (breaks ++ text), p)
  else return (String.ofList (header.chomping.ending [] breaks), p)

end PodPolicy.Yaml
