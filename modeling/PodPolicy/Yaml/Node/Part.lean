import PodPolicy.Yaml.Node.Merge
import PodPolicy.Yaml.Scalar

/-!
# Parts of a document

What the nodes of a document stand for. Scalars have their values at once.
Collections are opened, and filled in rounds: all that were opened in one round
are filled in the next, in that order. A node is dealt with once, whatever leads
to it, and as it is at that time.
-/

namespace PodPolicy.Yaml

/-- What a node stands for; the parts of a collection are nodes again. -/
inductive Part
  | value (v : Value)
  | opened
  | list (items : List NodeId)
  | pairs (entries : List NodeEntry)
  | mapping (entries : List (Value × NodeId))
  | set (keys : List Value)

-- -----------------------------------------------------------------------------
-- Scalars
-- -----------------------------------------------------------------------------

/-- The text of a scalar, or of the value that stands for a whole mapping; `fuel`
is more than there are nodes. -/
def scalarText (nodes : Nodes) (fuel : Nat) (id : NodeId) : Except Stop String :=
  match fuel with
  | 0 => .error (.fault .endlessValue)
  | fuel + 1 =>
    match nodes.content id with
    | .text s => .ok s
    | .sequence _ => refuse .wrongKind
    | .mapping entries =>
      match entries.find? fun entry => nodes.tag entry.1 = .wholeValue with
      | some (_, value) => scalarText nodes fuel value
      | none => refuse .wrongKind

/-- The value of a node under a tag for scalars. Times are asked of texts only. -/
def scalarOf (nodes : Nodes) (id : NodeId) : Except Stop Value :=
  match nodes.tag id with
  | .merge | .wholeValue | .other _ => refuse .unknownTag
  | tag => do
    let s ← scalarText nodes (nodes.size + 1) id
    match tag, nodes.content id with
    | .time, .mapping _ => .error (.fault .timeOfMapping)
    | _, _ => scalarValue tag s

-- -----------------------------------------------------------------------------
-- Collections
-- -----------------------------------------------------------------------------

/-- What is known while parts are made. -/
structure Making where
  nodes : Nodes
  parts : Array (Option Part)
  /-- Collections that are not filled yet, the last one opened first. -/
  opened : List NodeId := []

abbrev Make := StateT Making (Except Stop)

namespace Make

def refuse {α : Type} (p : Problem) : Make α :=
  throw (.problem p)

def put (id : NodeId) (p : Part) : Make Unit :=
  modify fun m => { m with parts := m.parts.setIfInBounds id (some p) }

/-- The part of a node that has not been met before. -/
def newPart (id : NodeId) : Make Part := do
  let nodes := (← get).nodes
  if (nodes.tag id).isCollection then
    modify fun m => { m with opened := id :: m.opened }
    return .opened
  else return .value (← scalarOf nodes id)

def part (id : NodeId) : Make Part := do
  match (← get).parts[id]?.join with
  | some p => return p
  | none =>
    let p ← newPart id
    put id p
    return p

def key (id : NodeId) : Make Value := do
  match ← part id with
  | .value v => return v
  | _ => refuse .collectionAsKey

def entry (e : NodeEntry) : Make (Value × NodeId) := do
  let k ← key e.1
  let _ ← part e.2
  return (k, e.2)

/-- The entries of a mapping after it has taken in others, a later one replacing
an earlier one of the same key. -/
def entries (id : NodeId) : Make (List (Value × NodeId)) := do
  let m ← get
  let ((), nodes) ← (Merging.takeIn (m.nodes.entryCount + 1) id).run m.nodes
  set { m with nodes := nodes }
  let made ← (nodes.entries id).mapM entry
  return Keyed.ofList made

def pair (id : NodeId) : Make NodeEntry := do
  match (← get).nodes.content id with
  | .mapping [e] =>
    let _ ← part e.1
    let _ ← part e.2
    return e
  | _ => refuse .wrongKind

/-- Fills a collection, under a tag for its content. -/
def fill (id : NodeId) : Make Unit := do
  let n := (← get).nodes.node id
  match n.tag, n.content with
  | .list, .sequence items =>
    items.forM fun item => discard (part item)
    put id (.list items)
  | .pairs, .sequence items => put id (.pairs (← items.mapM pair))
  | .mapping, .mapping _ => put id (.mapping (← entries id))
  | .set, .mapping _ => put id (.set ((← entries id).map (·.1)))
  | _, _ => refuse .wrongKind

/-- Fills collections in rounds; each has at least one, so `fuel` is enough if it
is more than there are nodes. -/
def rounds (fuel : Nat) : Make Unit := do
  match fuel, (← get).opened with
  | fuel + 1, id :: rest =>
    modify fun m => { m with opened := [] }
    (id :: rest).reverse.forM fill
    rounds fuel
  | _, _ => return ()

end Make

def Graph.parts (g : Graph) : Except Stop (Array Part) := do
  let start : Making := ⟨g.nodes, Array.replicate g.nodes.size none, []⟩
  let make : Make Unit := do
    let _ ← Make.part g.root
    Make.rounds (g.nodes.size + 1)
  let ((), m) ← make.run start
  return m.parts.map (·.getD .opened)

end PodPolicy.Yaml
