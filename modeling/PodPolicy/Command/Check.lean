import PodPolicy.Command
import PodPolicy.Engine
import PodPolicy.File
import PodPolicy.Json.Writer
import PodPolicy.Rule.Record

/-!
# Checking files

Every manifest of every file is judged in order, and each that is subject to the
policy has a report. The first obstacle ends the check, and then there are no
reports at all.
-/

namespace PodPolicy

structure Report where
  file : String
  kind : Value
  name : Value
  violations : List Violation

namespace Report

def complies (r : Report) : Bool :=
  r.violations.isEmpty

def heading (r : Report) : String :=
  r.file ++ ": " ++ r.kind.display ++ "/" ++ r.name.display

def violationLine (v : Violation) : String :=
  s!"  [{v.severity.word}] {v.ruleId}: {v.message}"

def lines (r : Report) : List String :=
  if r.complies then [r.heading ++ ": compliant"]
  else (r.heading ++ s!": {r.violations.length} violation(s)") :: r.violations.map violationLine

def toValue (r : Report) : Value :=
  .record [
    ("file", .text r.file),
    ("kind", r.kind),
    ("name", r.name),
    ("violations", .list (r.violations.map Violation.toValue))]

end Report

namespace Check

/-- The name that a report gives to a manifest. -/
def manifestName (manifest : Entries) : Except Obstacle Value :=
  let metadata := manifest.get "metadata"
  let unnamed := Value.text "<unnamed>"
  if metadata.isVoid then .ok unnamed
  else
    match metadata with
    | .mapping entries => .ok ((Entries.get entries "name").orElse unnamed)
    | _ => .error (.fault .fieldOfOther)

def ofUnjudged : Unjudged → Obstacle
  | .shape e => .shape e
  | .fault f => .fault f

/-- The report on a manifest, none if its kind carries no pod; that it is left
out is told under its name. -/
def manifest (engine : Engine) (file : String) (entries : Entries) :
    Except Obstacle (Option Report) := do
  let name ← manifestName entries
  match ← (Workload.extractPod (.mapping entries)).mapError .shape with
  | none => if name.isTellable then return none else throw (.fault .untellableNumber)
  | some _ =>
    let violations ← (engine.evaluate (.mapping entries)).mapError ofUnjudged
    return some ⟨file, entries.get "kind", name, violations⟩

def manifests (engine : Engine) (file : String) (all : List Entries) :
    Except Obstacle (List Report) := do
  return (← all.mapM (manifest engine file)).filterMap id

def file (engine : Engine) (files : Files) (path : String) : Except Obstacle (List Report) := do
  manifests engine path (← loadFile files path)

def reports (engine : Engine) (files : Files) (paths : List String) :
    Except Obstacle (List Report) := do
  return (← paths.mapM (file engine files)).flatten

def asText (rs : List Report) : String :=
  String.join ((rs.flatMap Report.lines).map (· ++ "\n"))

def asJson (rs : List Report) : Except Obstacle String :=
  match Json.write .indented (.list (rs.map Report.toValue)) with
  | .ok s => .ok (s ++ "\n")
  | .error _ => .error (.fault .unwritable)

def render (format : Format) (rs : List Report) : Except Obstacle String :=
  match format with
  | .text => .ok (asText rs)
  | .json => asJson rs

/-- What a check prints, and whether all that it judged complies. -/
def print (engine : Engine) (files : Files) (paths : List String) (format : Format) :
    Except Obstacle (String × Bool) := do
  let rs ← reports engine files paths
  return (← render format rs, rs.all Report.complies)

end Check

end PodPolicy
