import PodPolicy.Manifest.Problem

/-!
# Manifests that cannot be evaluated

A manifest without the shape of a workload gets no verdict. That is no
violation: it is refused, with a message and, where parts of it do not match
their declarations, the list of problems.
-/

namespace PodPolicy

inductive ShapeError
  | notMapping
  | missingKind
  | specNotMapping
  | containersNotSequence
  | mismatch (problems : List Problem)
  | partNotMapping (path : String)
  | missingTemplate (kind path : String)
  | unknownKind (kind : String)
  | documentNotMapping (index : Nat) (kindName : String)

namespace ShapeError

def message : ShapeError → String
  | .notMapping => "Manifest must be a mapping"
  | .missingKind => "Manifest is missing 'kind'"
  | .specNotMapping => "spec must be a mapping"
  | .containersNotSequence => "spec.containers must be a sequence"
  | .mismatch _ => "Manifest does not match the Pod shape"
  | .partNotMapping path => s!"{path} must be a mapping"
  | .missingTemplate kind path => s!"{kind} is missing {path}"
  | .unknownKind kind => s!"Kind {kind} is not a known workload and has no spec.containers"
  | .documentNotMapping index kindName =>
    s!"Document {index} is a {kindName}, expected a mapping"

def details : ShapeError → List String
  | .mismatch problems => problems.map Problem.toText
  | _ => []

/-- A message with its details after a colon, if there are any. -/
def withDetails (message : String) (details : List String) : String :=
  if details.isEmpty then message else message ++ ": " ++ "; ".intercalate details

def toText (e : ShapeError) : String :=
  withDetails e.message e.details

end ShapeError

end PodPolicy
