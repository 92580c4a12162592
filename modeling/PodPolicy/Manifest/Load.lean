import PodPolicy.Manifest.Shape
import PodPolicy.Value.Display
import PodPolicy.Yaml

/-!
# Loading manifests

A text holds one manifest in each document that is not empty. Every document is
decoded before the first is looked at, so that a text is loaded as a whole or
not at all.
-/

namespace PodPolicy

/-- Why there are no manifests. -/
inductive Obstacle
  | notYaml (p : Yaml.Problem)
  | noText (path reason : String)
  | shape (e : ShapeError)
  | fault (f : Fault)

namespace Obstacle

def ofStop : Yaml.Stop → Obstacle
  | .problem p => .notYaml p
  | .fault f => .fault f

/-- What is told of an obstacle, nothing of a fault. -/
def message? : Obstacle → Option String
  | .notYaml p => some s!"Could not parse manifest YAML: {p.message}"
  | .noText path reason => some s!"Could not read manifest file {path}: {reason}"
  | .shape e => some e.toText
  | .fault _ => none

end Obstacle

namespace Manifest

def ofDocument (index : Nat) : Value → Except ShapeError (Option Entries)
  | .null => .ok none
  | .mapping entries => .ok (some entries)
  | v => .error (.documentNotMapping index v.kindName)

/-- The manifests in documents, the first of which has the position `index`. -/
def ofDocuments (index : Nat) : List Value → Except ShapeError (List Entries)
  | [] => .ok []
  | v :: rest => do
    let manifest ← ofDocument index v
    let manifests ← ofDocuments (index + 1) rest
    return manifest.toList ++ manifests

def ofDecoded : Except Yaml.Stop (List Value) → Except Obstacle (List Entries)
  | .error s => .error (.ofStop s)
  | .ok documents => (ofDocuments 0 documents).mapError .shape

def load (text : String) : Except Obstacle (List Entries) :=
  ofDecoded (Yaml.readAll text)

end Manifest

end PodPolicy
