import PodPolicy.Yaml.Node.Part

/-!
# Values of nodes

A part of a document whose own parts end has a value. A part that leads into a
collection that holds itself is unrolled to a depth.
-/

namespace PodPolicy.Yaml

namespace Part

/-- The value of a part, given those of the nodes that it consists of. -/
def value? (known : NodeId → Option Value) : Part → Option Value
  | .value v => some v
  | .opened => none
  | .list items => do return .list (← items.mapM known)
  | .pairs entries => do
    let pairs ← entries.mapM fun (k, v) => do return .tuple [← known k, ← known v]
    return .list pairs
  | .mapping entries => do
    return .mapping (← entries.mapM fun (key, v) => do return (key, ← known v))
  | .set keys => some (.set keys)

end Part

abbrev Known := Array (Option Value)

namespace Known

def get (known : Known) (id : NodeId) : Option Value :=
  known[id]?.join

def settleBelow (parts : Array Part) (id : NodeId) (known : Known) : Known :=
  match id with
  | 0 => known
  | id + 1 =>
    let v := known.get id <|> (parts[id]?.bind (Part.value? known.get))
    settleBelow parts id (known.setIfInBounds id v)

def count (known : Known) : Nat :=
  known.foldl (fun n v => if v.isSome then n + 1 else n) 0

/-- All values that there are; each turn finds one at least, or it is the last. -/
def settle (parts : Array Part) (fuel : Nat) (known : Known) : Known :=
  match fuel with
  | 0 => known
  | fuel + 1 =>
    let more := settleBelow parts parts.size known
    if more.count = known.count then more else settle parts fuel more

end Known

/-- How deep a collection that holds itself is unrolled. No part of a manifest
that is looked at is that deep. -/
def unrolledDepth : Nat := 16

def unrolled (parts : Array Part) (known : Known) : Nat → Array Value
  | 0 => known.map (·.getD .endless)
  | depth + 1 =>
    let less := unrolled parts known depth
    let next (id : NodeId) : Option Value := some (less[id]?.getD .endless)
    parts.mapIdx fun id p => (known.get id <|> p.value? next).getD .endless

def Graph.value (g : Graph) : Except Stop Value := do
  let parts ← g.parts
  let known := Known.settle parts (parts.size + 1) (parts.map fun _ => none)
  match known.get g.root with
  | some v => return v
  | none => return ((unrolled parts known unrolledDepth)[g.root]?).getD .endless

end PodPolicy.Yaml
