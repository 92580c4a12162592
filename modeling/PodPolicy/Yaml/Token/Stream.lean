import PodPolicy.Yaml.Token.Property
import PodPolicy.Yaml.Token.Plain
import PodPolicy.Yaml.Token.Block

/-!
# The tokens of a stream

Tokens are cut off one after the other under a layout: how deep the text is
indented, which flow collections are open, and where a key without an indicator
may have started. Only the colon after such a key shows that it was one, so the
token for it is put in front of it afterwards. Tokens behind a place where that
can still happen are not settled, and do not count if the text breaks off.
-/

namespace PodPolicy.Yaml

/-- A place where a key without an indicator may have started. -/
structure KeyPlace where
  /-- The number of tokens before it. -/
  before : Nat
  /-- Whether no key here would leave the text without a reading. -/
  isRequired : Bool
  index : Nat
  line : Nat
  column : Nat

structure Layout where
  cursor : Cursor
  /-- The tokens so far, last first. -/
  made : List Token := []
  count : Nat := 0
  /-- The column of the innermost block collection, -1 outside all. -/
  indent : Int := -1
  /-- The columns of the block collections around it, innermost first. -/
  outerIndents : List Int := []
  mayStartKey : Bool := true
  place : Option KeyPlace := none
  /-- The places in the collections around each open flow collection, innermost first. -/
  outerPlaces : List (Option KeyPlace) := []

namespace Layout

def inFlow (l : Layout) : Bool :=
  !l.outerPlaces.isEmpty

def push (l : Layout) (t : Token) : Layout :=
  { l with made := t :: l.made, count := l.count + 1 }

def insert (l : Layout) (before : Nat) (t : Token) : Layout :=
  { l with made := l.made.insertIdx (l.count - before) t, count := l.count + 1 }

def moveTo (l : Layout) (p : Cursor) : Layout :=
  { l with cursor := p }

def step (l : Layout) : Layout :=
  l.moveTo l.cursor.step

-- -----------------------------------------------------------------------------
-- Key places
-- -----------------------------------------------------------------------------

/-- The longest stretch of text before the colon of a key without an indicator. -/
def maxKeyLength : Nat := 1024

def KeyPlace.isStale (place : KeyPlace) (p : Cursor) : Bool :=
  place.line ≠ p.line || maxKeyLength < p.index - place.index

def dropPlace (place : Option KeyPlace) : Except Stop (Option KeyPlace) :=
  if place.any (·.isRequired) then refuse .unfinishedKey else .ok none

/-- Gives a place up if its key would be too long or go over a line. -/
def refreshPlace (p : Cursor) (place : Option KeyPlace) : Except Stop (Option KeyPlace) :=
  if place.any (KeyPlace.isStale · p) then dropPlace place else .ok place

def refresh (l : Layout) : Except Stop Layout := do
  let outerPlaces ← l.outerPlaces.mapM (refreshPlace l.cursor)
  let place ← refreshPlace l.cursor l.place
  return { l with place := place, outerPlaces := outerPlaces }

def forgetPlace (l : Layout) : Except Stop Layout := do
  let place ← dropPlace l.place
  return { l with place := place }

def markPlace (l : Layout) : Except Stop Layout := do
  if l.mayStartKey then
    let _ ← dropPlace l.place
    let isRequired := !l.inFlow && l.indent = l.cursor.column
    return { l with
      place := some ⟨l.count, isRequired, l.cursor.index, l.cursor.line, l.cursor.column⟩ }
  else return l

/-- The number of tokens in front of which none can come any more. -/
def settled (l : Layout) : Nat :=
  (l.place :: l.outerPlaces).foldl (fun n place => min n ((place.map (·.before)).getD n)) l.count

-- -----------------------------------------------------------------------------
-- Indents
-- -----------------------------------------------------------------------------

def closeFrom (column : Int) (l : Layout) : List Int → Layout
  | [] => l
  | outer :: rest =>
    if column < l.indent then
      closeFrom column ({ l with indent := outer, outerIndents := rest }.push .blockEnd) rest
    else l

def close (l : Layout) (column : Int) : Layout :=
  if l.inFlow then l else closeFrom column l l.outerIndents

def openAt (l : Layout) (column before : Nat) (start : Token) : Layout :=
  if !l.inFlow && l.indent < column then
    { l with indent := column, outerIndents := l.indent :: l.outerIndents }.insert before start
  else l

def openHere (l : Layout) (start : Token) : Layout :=
  l.openAt l.cursor.column l.count start

-- -----------------------------------------------------------------------------
-- Tokens
-- -----------------------------------------------------------------------------

def settleAll (l : Layout) : Except Stop Layout := do
  let l ← (l.close (-1)).forgetPlace
  return { l with mayStartKey := false }

def finish (l : Layout) : Except Stop Layout := do
  let l ← l.settleAll
  return { l with place := none, outerPlaces := [] }.push .streamEnd

def takeDirective (l : Layout) : Except Stop Layout := do
  let l ← l.settleAll
  let (directive, p) ← readDirective l.cursor
  return (l.moveTo p).push (.directive directive)

def takeSeparator (l : Layout) (t : Token) : Except Stop Layout := do
  let l ← l.settleAll
  return (l.moveTo (l.cursor.skip 3)).push t

def takeFlowStart (l : Layout) (t : Token) : Except Stop Layout := do
  let l ← l.markPlace
  let inner := { l with place := none, outerPlaces := l.place :: l.outerPlaces, mayStartKey := true }
  return inner.step.push t

def takeFlowEnd (l : Layout) (t : Token) : Except Stop Layout := do
  let l ← l.forgetPlace
  match l.outerPlaces with
  | [] =>
    return ({ l with mayStartKey := false }.step.push t).push (.broken (.problem .unmatchedBracket))
  | place :: outer =>
    return { l with place := place, outerPlaces := outer, mayStartKey := false }.step.push t

def takeFlowEntry (l : Layout) : Except Stop Layout := do
  let l ← l.forgetPlace
  return { l with mayStartKey := true }.step.push .flowEntry

def takeBlockEntry (l : Layout) : Except Stop Layout := do
  require (l.inFlow || l.mayStartKey) .misplacedEntry
  let l ← (l.openHere .blockSequenceStart).forgetPlace
  return { l with mayStartKey := true }.step.push .blockEntry

def takeKey (l : Layout) : Except Stop Layout := do
  require (l.inFlow || l.mayStartKey) .misplacedKey
  let l ← (l.openHere .blockMappingStart).forgetPlace
  return { l with mayStartKey := !l.inFlow }.step.push .key

/-- A colon makes a key of what started at the remembered place. -/
def takeValue (l : Layout) : Except Stop Layout := do
  match l.place with
  | some place =>
    let l := ({ l with place := none, mayStartKey := false }.insert place.before .key).openAt
      place.column place.before .blockMappingStart
    return l.step.push .value
  | none =>
    require (l.inFlow || l.mayStartKey) .misplacedValue
    let l := l.openHere .blockMappingStart
    return { l with mayStartKey := !l.inFlow }.step.push .value

/-- A token that may start a key, read from the cursor. -/
def takeReadable (l : Layout) (read : Cursor → Except Stop (Token × Cursor)) :
    Except Stop Layout := do
  let l ← l.markPlace
  let (t, p) ← read l.cursor
  return ({ l with mayStartKey := false }.moveTo p).push t

def takePlain (l : Layout) : Except Stop Layout := do
  let l ← l.markPlace
  let plain := readPlain l.inFlow (l.indent + 1) l.cursor
  return ({ l with mayStartKey := plain.crossesLine }.moveTo plain.after).push (.scalar plain.text true)

def takeBlock (l : Layout) (folded : Bool) : Except Stop Layout := do
  let l ← l.forgetPlace
  let (text, p) ← readBlock folded l.indent l.cursor
  return ({ l with mayStartKey := true }.moveTo p).push (.scalar text false)

def readName (t : String → Token) (p : Cursor) : Except Stop (Token × Cursor) := do
  let (name, p) ← readAnchor p
  return (t name, p)

def readTagToken (p : Cursor) : Except Stop (Token × Cursor) := do
  let (tag, p) ← readTag p
  return (.tag tag, p)

def readQuotedToken (quote : Quote) (p : Cursor) : Except Stop (Token × Cursor) := do
  let (text, p) ← readQuoted quote p
  return (.scalar text false, p)

def takeOther (l : Layout) : Except Stop Layout :=
  if startsPlain l.inFlow l.cursor then l.takePlain else refuse .noToken

def take (l : Layout) : Except Stop Layout :=
  let p := l.cursor
  let isApart := endsToken (p.peekAt? 1)
  match p.peek? with
  | none => l.finish
  | some c =>
    if c = '%' ∧ p.column = 0 then l.takeDirective
    else if p.column = 0 ∧ p.isAtMark '-' then l.takeSeparator .documentStart
    else if p.column = 0 ∧ p.isAtMark '.' then l.takeSeparator .documentEnd
    else if c = '[' then l.takeFlowStart .flowSequenceStart
    else if c = '{' then l.takeFlowStart .flowMappingStart
    else if c = ']' then l.takeFlowEnd .flowSequenceEnd
    else if c = '}' then l.takeFlowEnd .flowMappingEnd
    else if c = ',' then l.takeFlowEntry
    else if c = '-' ∧ isApart then l.takeBlockEntry
    else if c = '?' ∧ (l.inFlow ∨ isApart) then l.takeKey
    else if c = ':' ∧ (l.inFlow ∨ isApart) then l.takeValue
    else if c = '*' then l.takeReadable (readName .alias)
    else if c = '&' then l.takeReadable (readName .anchor)
    else if c = '!' then l.takeReadable readTagToken
    else if c = '|' ∧ !l.inFlow then l.takeBlock false
    else if c = '>' ∧ !l.inFlow then l.takeBlock true
    else if c = '\'' then l.takeReadable (readQuotedToken .single)
    else if c = '"' then l.takeReadable (readQuotedToken .double)
    else l.takeOther

-- -----------------------------------------------------------------------------
-- Streams
-- -----------------------------------------------------------------------------

/-- Goes to the next token. A new line may start with a key, but not inside a
flow collection. -/
def skipBlank (fuel : Nat) (l : Layout) : Layout :=
  let p := l.cursor.skipRun isSpace
  let p := if p.peek? = some '#' then p.skipLine else p
  match fuel, p.lineBreak? with
  | fuel + 1, some (_, p) =>
    ({ l with mayStartKey := !l.inFlow || l.mayStartKey }.moveTo p).skipBlank fuel
  | _, _ => l.moveTo p

def skipMark (l : Layout) : Layout :=
  if l.cursor.index = 0 ∧ l.cursor.peek? = some byteOrderMark then l.step else l

def advance (l : Layout) : Except Stop Layout := do
  let l ← (l.skipMark.skipBlank (l.cursor.left + 1)).refresh
  let l ← (l.close l.cursor.column).take
  l.refresh

/-- Whether the last token says that nothing follows. -/
def isDone (l : Layout) : Bool :=
  match l.made with
  | .streamEnd :: _ | .broken _ :: _ => true
  | _ => false

/-- The tokens that are settled when the text breaks off, and the reason. -/
def breakOff (l : Layout) (s : Stop) : List Token :=
  l.made.reverse.take l.settled ++ [.broken s]

def run (fuel : Nat) (l : Layout) : List Token :=
  match fuel with
  | 0 => l.breakOff (.problem .noToken)
  | fuel + 1 =>
    if l.isDone then l.made.reverse
    else
      match l.advance with
      | .ok next => run fuel next
      | .error s => l.breakOff s

end Layout

/-- The tokens of a text. The last one is the end of the stream, or says why the
text cannot be read further. -/
def tokens (s : String) : List Token :=
  if s.toList.all isPrintable then Layout.run (s.length + 2) { cursor := .start s }
  else [.broken (.problem .unprintable)]

end PodPolicy.Yaml
