import PodPolicy.Yaml.Node
import PodPolicy.Yaml.Tag.Implicit
import PodPolicy.Yaml.Token.Stream

/-!
# Documents

The nodes of a stream, one for each document. A stream that breaks a rule still
has the documents before that.
-/

namespace PodPolicy.Yaml

/-- What is known while a document is read. -/
structure Reading where
  tokens : List Token
  /-- Starts of tag names by their handles. -/
  handles : List (String × String)
  /-- Nodes by their anchors, the latest first. -/
  anchors : List (String × NodeId) := []
  nodes : Nodes := #[]

abbrev Read := StateT Reading (Except Stop)

namespace Read

def refuse {α : Type} (p : Problem) : Read α :=
  throw (.problem p)

def peek : Read Token := do
  match (← get).tokens with
  | .broken s :: _ => throw s
  | t :: _ => return t
  | [] => return .streamEnd

def drop : Read Unit :=
  modify fun r => { r with tokens := r.tokens.tail }

def accept (t : Token) : Read Bool := do
  if (← peek) = t then
    drop
    return true
  else return false

def expect (t : Token) (p : Problem) : Read Unit := do
  if !(← accept t) then refuse p

def sees (ts : List Token) : Read Bool := do
  return ts.contains (← peek)

-- -----------------------------------------------------------------------------
-- Properties
-- -----------------------------------------------------------------------------

structure Properties where
  anchor : Option String := none
  tag : Option WrittenTag := none

def anchorProperty : Read (Option String) := do
  match ← peek with
  | .anchor name =>
    drop
    return some name
  | _ => return none

def tagProperty : Read (Option WrittenTag) := do
  match ← peek with
  | .tag t =>
    drop
    return some t
  | _ => return none

def properties : Read Properties := do
  match ← anchorProperty with
  | some anchor => return ⟨some anchor, ← tagProperty⟩
  | none =>
    match ← tagProperty with
    | some tag => return ⟨← anchorProperty, some tag⟩
    | none => return {}

/-- The full name of a tag; none for the tag `!`, which leaves the choice open. -/
def tagName (written : Option WrittenTag) : Read (Option String) := do
  let name ← match written with
    | none => pure none
    | some ⟨none, suffix⟩ => pure (some suffix)
    | some ⟨some handle, suffix⟩ =>
      match (← get).handles.lookup handle with
      | some start => pure (some (start ++ suffix))
      | none => refuse .undefinedHandle
  return name.filter (· ≠ "!")

def add (n : Node) : Read NodeId :=
  modifyGet fun r => (r.nodes.size, { r with nodes := r.nodes.push n })

def empty : Read NodeId :=
  add .empty

/-- Gives a node its name; no two nodes of a document share one. -/
def nameNode (anchor : Option String) (id : NodeId) : Read Unit := do
  match anchor with
  | none => return ()
  | some name =>
    if ((← get).anchors.lookup name).isSome then refuse .repeatedAnchor
    else modify fun r => { r with anchors := (name, id) :: r.anchors }

def aliased (name : String) : Read NodeId := do
  match (← get).anchors.lookup name with
  | some id => return id
  | none => refuse .undefinedAlias

def scalarTag (name : Option String) (leavesOpen : Bool) (text : String) : Tag :=
  match name with
  | some uri => .ofUri uri
  | none => if leavesOpen then .ofPlain text else .text

def collectionTag (name : Option String) (usual : Tag) : Tag :=
  (name.map Tag.ofUri).getD usual

-- -----------------------------------------------------------------------------
-- Nodes
-- -----------------------------------------------------------------------------

/-- Where a node stands. Only a block collection may hold others in block
style, and only below a key may a sequence have the indent of its mapping. -/
inductive Place
  | block
  | belowKey
  | flow
deriving DecidableEq, Repr

/-- A collection, which is known by its name from its start on. -/
def collection (anchor : Option String) (tag : Tag) (rest : Read Content) : Read NodeId := do
  let id ← add .empty
  nameNode anchor id
  let content ← rest
  modify fun r => { r with nodes := r.nodes.put id ⟨tag, content⟩ }
  return id

mutual
/-- `fuel` bounds the depth and the length of what the tokens can hold. -/
def node (fuel : Nat) (place : Place) : Read NodeId := do
  match fuel with
  | 0 => refuse .noContent
  | fuel + 1 =>
    match ← peek with
    | .alias name =>
      drop
      aliased name
    | _ =>
      let given ← properties
      let name ← tagName given.tag
      content fuel place given name
def content (fuel : Nat) (place : Place) (given : Properties) (name : Option String) :
    Read NodeId := do
  match fuel with
  | 0 => refuse .noContent
  | fuel + 1 =>
    let listTag := collectionTag name .list
    let mappingTag := collectionTag name .mapping
    let list (items : Read (List NodeId)) : Read NodeId :=
      collection given.anchor listTag do return .sequence (← items)
    let mapping (entries : Read (List NodeEntry)) : Read NodeId :=
      collection given.anchor mappingTag do return .mapping (← entries)
    let scalar (leavesOpen : Bool) (text : String) : Read NodeId := do
      let id ← add ⟨scalarTag name leavesOpen text, .text text⟩
      nameNode given.anchor id
      return id
    match ← peek with
    | .scalar text isPlain =>
      drop
      scalar ((isPlain && given.tag.isNone) || (given.tag.isSome && name.isNone)) text
    | .flowSequenceStart =>
      drop
      list (flowItems fuel true)
    | .flowMappingStart =>
      drop
      mapping (flowEntries fuel true)
    | t =>
      if t = .blockEntry ∧ place = .belowKey then list (flatItems fuel)
      else if t = .blockSequenceStart ∧ place ≠ .flow then do
        drop
        list (blockItems fuel)
      else if t = .blockMappingStart ∧ place ≠ .flow then do
        drop
        mapping (blockEntries fuel)
      else if given.anchor.isSome ∨ given.tag.isSome then scalar name.isNone ""
      else refuse .noContent
/-- The items of a sequence with an indent of its own. -/
def blockItems (fuel : Nat) : Read (List NodeId) := do
  match fuel with
  | 0 => refuse .unfinishedBlock
  | fuel + 1 =>
    if ← accept .blockEntry then
      let isEmpty ← sees [.blockEntry, .blockEnd]
      let item ← if isEmpty then empty else node fuel .block
      return item :: (← blockItems fuel)
    else
      expect .blockEnd .unfinishedBlock
      return []
/-- The items of a sequence with the indent of its mapping. -/
def flatItems (fuel : Nat) : Read (List NodeId) := do
  match fuel with
  | 0 => refuse .unfinishedBlock
  | fuel + 1 =>
    if ← accept .blockEntry then
      let isEmpty ← sees [.blockEntry, .key, .value, .blockEnd]
      let item ← if isEmpty then empty else node fuel .block
      return item :: (← flatItems fuel)
    else return []
def blockEntries (fuel : Nat) : Read (List NodeEntry) := do
  match fuel with
  | 0 => refuse .unfinishedBlock
  | fuel + 1 =>
    if ← accept .key then
      let key ← blockPart fuel
      let value ← if ← accept .value then blockPart fuel else empty
      return (key, value) :: (← blockEntries fuel)
    else
      expect .blockEnd .unfinishedBlock
      return []
/-- The key or the value of an entry, after its indicator. -/
def blockPart (fuel : Nat) : Read NodeId := do
  match fuel with
  | 0 => refuse .unfinishedBlock
  | fuel + 1 =>
    if ← sees [.key, .value, .blockEnd] then empty
    else node fuel .belowKey
def flowItems (fuel : Nat) (isFirst : Bool) : Read (List NodeId) := do
  match fuel with
  | 0 => refuse .unfinishedFlow
  | fuel + 1 =>
    if ← accept .flowSequenceEnd then return []
    else
      if !isFirst then expect .flowEntry .unfinishedFlow
      if ← accept .key then
        let key ← flowPart fuel [.value, .flowEntry, .flowSequenceEnd]
        let value ← flowValue fuel .flowSequenceEnd
        let item ← add ⟨.mapping, .mapping [(key, value)]⟩
        return item :: (← flowItems fuel false)
      else if ← accept .flowSequenceEnd then return []
      else
        let item ← node fuel .flow
        return item :: (← flowItems fuel false)
def flowEntries (fuel : Nat) (isFirst : Bool) : Read (List NodeEntry) := do
  match fuel with
  | 0 => refuse .unfinishedFlow
  | fuel + 1 =>
    if ← accept .flowMappingEnd then return []
    else
      if !isFirst then expect .flowEntry .unfinishedFlow
      if ← accept .key then
        let key ← flowPart fuel [.value, .flowEntry, .flowMappingEnd]
        let value ← flowValue fuel .flowMappingEnd
        return (key, value) :: (← flowEntries fuel false)
      else if ← accept .flowMappingEnd then return []
      else
        let key ← node fuel .flow
        return (key, ← empty) :: (← flowEntries fuel false)
/-- A node, or nothing before one of some tokens. -/
def flowPart (fuel : Nat) (ends : List Token) : Read NodeId := do
  match fuel with
  | 0 => refuse .unfinishedFlow
  | fuel + 1 =>
    if ← sees ends then empty
    else node fuel .flow
def flowValue (fuel : Nat) (last : Token) : Read NodeId := do
  match fuel with
  | 0 => refuse .unfinishedFlow
  | fuel + 1 =>
    if ← accept .value then flowPart fuel [.flowEntry, last]
    else empty
end

-- -----------------------------------------------------------------------------
-- Documents
-- -----------------------------------------------------------------------------

def usualHandles : List (String × String) :=
  [("!", "!"), ("!!", Tag.commonStart)]

/-- Reads directives: `hasVersion` if a version was given, and the handles so far. -/
def directives (fuel : Nat) (hasVersion : Bool) (handles : List (String × String)) :
    Read (List (String × String)) := do
  match fuel, ← peek with
  | fuel + 1, .directive d =>
    drop
    match d with
    | .version major =>
      if hasVersion then refuse .repeatedDirective
      else if major ≠ 1 then refuse .version
      else directives fuel true handles
    | .handle name start =>
      if (handles.lookup name).isSome then refuse .repeatedDirective
      else directives fuel hasVersion ((name, start) :: handles)
    | .reserved => directives fuel hasVersion handles
  | _, _ => return handles ++ usualHandles

def skipDocumentEnds (fuel : Nat) : Read Unit := do
  match fuel with
  | 0 => return ()
  | fuel + 1 => if ← accept .documentEnd then skipDocumentEnds fuel

def isDirective : Token → Bool
  | .directive _ => true
  | _ => false

/-- What follows the mark at the start of a document. -/
def documentContent (fuel : Nat) : Read NodeId := do
  let t ← peek
  if isDirective t || [.documentStart, .documentEnd, .streamEnd].contains t then empty
  else node fuel .block

def endDocument (root : NodeId) : Read Graph := do
  let _ ← accept .documentEnd
  return ⟨(← get).nodes, root⟩

def bareDocument (fuel : Nat) : Read Graph := do
  endDocument (← node fuel .block)

def markedDocument (fuel : Nat) : Read (Option Graph) := do
  skipDocumentEnds fuel
  if ← accept .streamEnd then return none
  else
    let handles ← directives fuel false []
    modify fun r => { r with handles := handles }
    expect .documentStart .noDocumentStart
    endDocument (← documentContent fuel)

def firstDocument (fuel : Nat) : Read (Option Graph) := do
  let t ← peek
  if isDirective t || [.documentStart, .streamEnd].contains t then markedDocument fuel
  else bareDocument fuel

end Read

/-- The documents of a stream, and what ended it before its end. -/
structure Documents where
  graphs : List Graph
  stop : Option Stop

def Documents.cons (g : Graph) (ds : Documents) : Documents :=
  { ds with graphs := g :: ds.graphs }

/-- Reads a document with `next`, then the others. -/
def documentsFrom (next : Read (Option Graph)) (fuel : Nat) (tokens : List Token) : Documents :=
  match fuel with
  | 0 => ⟨[], none⟩
  | fuel + 1 =>
    match next.run { tokens := tokens, handles := Read.usualHandles } with
    | .error s => ⟨[], some s⟩
    | .ok (none, _) => ⟨[], none⟩
    | .ok (some g, r) =>
      (documentsFrom (Read.markedDocument (4 * r.tokens.length + 4)) fuel r.tokens).cons g

def documents (text : String) : Documents :=
  let ts := tokens text
  documentsFrom (Read.firstDocument (4 * ts.length + 4)) (ts.length + 1) ts

end PodPolicy.Yaml
