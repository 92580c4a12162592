import PodPolicy.Yaml.Node
import PodPolicy.Yaml.Problem

/-!
# Merged entries

A mapping takes in the entries of others that it names under merge keys: the
merge keys go, and what they bring comes before the entries of its own. That
changes the nodes, and whoever meets them later finds them changed. A key of a
whole value is plain text from then on.
-/

namespace PodPolicy.Yaml

abbrev Merging := StateT Nodes (Except Stop)

namespace Merging

def refuse {α : Type} (p : Problem) : Merging α :=
  throw (.problem p)

def entriesAfter (takeIn : NodeId → Merging Unit) (id : NodeId) : Merging (List NodeEntry) := do
  match (← get).content id with
  | .mapping _ =>
    takeIn id
    return (← get).entries id
  | _ => refuse .mergeOfOther

/-- What the value of a merge key brings. Of a list, the first mapping comes last,
so that it counts most. -/
def broughtBy (takeIn : NodeId → Merging Unit) (value : NodeId) : Merging (List NodeEntry) := do
  match (← get).content value with
  | .sequence items =>
    let brought ← items.mapM (entriesAfter takeIn)
    return brought.reverse.flatten
  | _ => entriesAfter takeIn value

/-- Goes through the rest of the entries of a mapping, those before it in `kept`,
the last first. A merge key goes before its value is looked at. If that leads
back to the mapping, no merge key is left in it afterwards. -/
def takeRest (takeIn : NodeId → Merging Unit) (id : NodeId) (kept : List NodeEntry) :
    List NodeEntry → Merging (List NodeEntry)
  | [] => return []
  | (key, value) :: rest => do
    let tag := (← get).tag key
    if tag = .merge then
      let others := kept.reverse ++ rest
      modify (·.setEntries id others)
      let brought ← broughtBy takeIn value
      if (← get).entries id = others then return brought ++ (← takeRest takeIn id kept rest)
      else return brought
    else
      if tag = .wholeValue then modify (·.setTag key .text)
      takeRest takeIn id ((key, value) :: kept) rest

/-- Takes in what the merge keys of a mapping bring. Each mapping that is met on
the way has lost a merge key, so `fuel` is enough if it is more than there are. -/
def takeIn (fuel : Nat) (id : NodeId) : Merging Unit := do
  match fuel with
  | 0 => return ()
  | fuel + 1 =>
    let brought ← takeRest (takeIn fuel) id [] ((← get).entries id)
    if !brought.isEmpty then modify fun nodes => nodes.setEntries id (brought ++ nodes.entries id)

end Merging

end PodPolicy.Yaml
