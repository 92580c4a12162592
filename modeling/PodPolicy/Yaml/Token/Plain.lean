import PodPolicy.Yaml.Token.Quoted

/-!
# Plain scalars

Text without quotes goes on over lines that are indented enough, folded like
quoted text. A comment, a key's colon and, inside a flow collection, a flow mark
end it.
-/

namespace PodPolicy.Yaml

def endsPlain (inFlow : Bool) (c : Char) (next : Option Char) : Bool :=
  endsToken (some c) ||
    (c = ':' && (endsToken next || (inFlow && next.any isFlowMark))) ||
    (inFlow && (isFlowMark c || c = '?'))

def plainRun (inFlow : Bool) : List Char → List Char
  | [] => []
  | c :: rest => if endsPlain inFlow c rest.head? then [] else c :: plainRun inFlow rest

def startsPlain (inFlow : Bool) (p : Cursor) : Bool :=
  match p.rest with
  | [] => false
  | c :: rest =>
    !(endsToken (some c) || isIndicator c) ||
      (!endsToken rest.head? && (c = '-' || (!inFlow && (c = '?' || c = ':'))))

/-- The breaks of empty lines, none at all where a document ends. -/
def plainEmptyLines (fuel : Nat) (done : List Char) (p : Cursor) : Option (List Char) × Cursor :=
  match fuel with
  | 0 => (some done.reverse, p)
  | fuel + 1 =>
    if p.isAtSeparator then (none, p)
    else
      let p := p.skipRun isSpace
      match p.lineBreak? with
      | some (c, p) => plainEmptyLines fuel (c :: done) p
      | none => (some done.reverse, p)

structure PlainGap where
  /-- The text for it, empty where the scalar cannot go on. -/
  text : List Char
  crossesLine : Bool
  after : Cursor

def readPlainGap (p : Cursor) : PlainGap :=
  let spaces := p.run isSpace
  let p := p.skip spaces.length
  match p.lineBreak? with
  | none => ⟨spaces, false, p⟩
  | some (c, p) =>
    match plainEmptyLines (p.left + 1) [] p with
    | (some more, p) => ⟨foldBreaks c more, true, p⟩
    | (none, p) => ⟨[], true, p⟩

structure PlainText where
  text : String
  /-- Whether a line break was read after the text. -/
  crossesLine : Bool
  after : Cursor

/-- Reads on. `done` holds what was read, last first, `gap` what lies before
the cursor, and `fuel` bounds the runs that the text can have. -/
def readPlainFrom (inFlow : Bool) (indent : Int) (fuel : Nat) (done : List Char) (gap : PlainGap) :
    PlainText :=
  let p := gap.after
  let piece := plainRun inFlow p.rest
  match fuel with
  | 0 => ⟨String.ofList done.reverse, gap.crossesLine, p⟩
  | fuel + 1 =>
    if piece.isEmpty || p.peek? = some '#' then ⟨String.ofList done.reverse, gap.crossesLine, p⟩
    else
      let done := piece.reverse ++ (gap.text.reverse ++ done)
      let next := readPlainGap (p.skip piece.length)
      if next.text.isEmpty || (!inFlow && next.after.column < indent) then
        ⟨String.ofList done.reverse, next.crossesLine, next.after⟩
      else readPlainFrom inFlow indent fuel done next

def readPlain (inFlow : Bool) (indent : Int) (p : Cursor) : PlainText :=
  readPlainFrom inFlow indent (p.left + 1) [] ⟨[], false, p⟩

end PodPolicy.Yaml
