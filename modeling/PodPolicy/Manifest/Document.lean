import PodPolicy.Manifest.Declarations
import PodPolicy.Manifest.Shape

/-!
# Reading a pod

A decoded mapping becomes a pod in two steps: a gate for the outline that every
manifest has, then the check against the declared shape.
-/

namespace PodPolicy

/-- A checked manifest: its values in the declared shape, from which the pod and
the written form are made. -/
structure Document where
  form : Declared.pod.Form

namespace Document

def pod (d : Document) : Pod :=
  Pod.ofForm d.form

/-- The manifest in the spelling of the declarations. With `defaults`, fields
that were absent are written too. -/
def write (defaults : Bool) (d : Document) : Value :=
  Declared.pod.write defaults d.form

end Document

def Value.isSequence : Value → Bool
  | .list _ | .tuple _ => true
  | _ => false

def kindOf (entries : Entries) : Except ShapeError String :=
  match entries.get "kind" with
  | .text kind => if kind.isEmpty then .error .missingKind else .ok kind
  | _ => .error .missingKind

def checkContainers : Value → Except ShapeError Unit
  | .null => .ok ()
  | v => if v.isSequence then .ok () else .error .containersNotSequence

def checkSpec : Value → Except ShapeError Unit
  | .null => .ok ()
  | .mapping spec => checkContainers (Entries.get spec "containers")
  | _ => .error .specNotMapping

/-- The outline of a manifest: its kind, a mapping for a spec and a sequence for
its containers. -/
def checkOutline : Value → Except ShapeError Unit
  | .mapping entries => do
    let _ ← kindOf entries
    checkSpec (Entries.get entries "spec")
  | _ => .error .notMapping

/-- Reads a value in the declared shape, with all its problems if there are any. -/
def matchDeclared (v : Value) : Except ShapeError Document :=
  match Declared.pod.check v with
  | .ok form => .ok ⟨form⟩
  | .error problems => .error (.mismatch problems)

def readDocument (v : Value) : Except ShapeError Document := do
  checkOutline v
  matchDeclared v

end PodPolicy
