import PodPolicy.Yaml.Document
import PodPolicy.Yaml.Node.Value

/-!
# Reading YAML

The values of all documents of a text, or why there are none: one document that
cannot be valued stops the stream, even before a later one breaks a rule.
-/

namespace PodPolicy.Yaml

def Documents.values (ds : Documents) : Except Stop (List Value) := do
  let vs ← ds.graphs.mapM Graph.value
  match ds.stop with
  | some s => .error s
  | none => return vs

def readAll (text : String) : Except Stop (List Value) :=
  (documents text).values

end PodPolicy.Yaml
