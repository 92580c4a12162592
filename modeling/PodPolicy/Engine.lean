import PodPolicy.Fault
import PodPolicy.Rule.Catalog
import PodPolicy.Workload

/-!
# The engine

An engine holds rules and the ids of those that are switched off. It judges a
pod by every active rule, each in the order of the catalog and none in the light
of another.
-/

namespace PodPolicy

structure Engine where
  rules : List Rule
  disabled : List String
  workers : Int

namespace Engine

def knows (rules : List Rule) (id : String) : Bool :=
  rules.any (·.id == id)

/-- Ids that name no rule are left out. At least one worker is at work. -/
def make (rules : List Rule) (disabled : List String) (workers : Int) : Engine where
  rules := rules
  disabled := disabled.filter (knows rules)
  workers := max 1 workers

def makeWarnings (rules : List Rule) (disabled : List String) : List String :=
  (disabled.filter fun id => !knows rules id).map fun id =>
    s!"Ignoring unknown rule in disabled rules: {id}"

def default : Engine :=
  make catalog [] 1

def isActive (e : Engine) (r : Rule) : Bool :=
  !e.disabled.contains r.id

def activeRules (e : Engine) : List Rule :=
  e.rules.filter e.isActive

def listRules (e : Engine) : List RuleInfo :=
  e.activeRules.map Rule.info

def judge (e : Engine) (pod : Pod) : List Violation :=
  e.activeRules.flatMap fun r => r.violations pod

/-- Whether the messages of all that is found can be told. -/
def canTell (e : Engine) (pod : Pod) : Bool :=
  e.activeRules.all fun r => r.canTellAll pod

def verdict (e : Engine) (pod : Pod) : Except Fault (List Violation) :=
  if e.canTell pod then .ok (e.judge pod) else .error .untellableNumber

def judgeWarnings (e : Engine) (pod : Pod) : List String :=
  e.activeRules.flatMap fun r => r.warnings pod

end Engine

def readPod (manifest : Value) : Except ShapeError (Option Pod) := do
  match ← Workload.extractPod manifest with
  | none => return none
  | some v => return some (← readDocument v).pod

/-- Why a manifest gets no verdict. -/
inductive Unjudged
  | shape (e : ShapeError)
  | fault (f : Fault)

/-- All violations of a manifest; none means that it complies. -/
def Engine.evaluate (e : Engine) (manifest : Value) : Except Unjudged (List Violation) := do
  match ← (readPod manifest).mapError .shape with
  | none => return []
  | some pod => (e.verdict pod).mapError .fault

def evaluate (manifest : Value) : Except Unjudged (List Violation) :=
  Engine.default.evaluate manifest

inductive Submission
  | decoded (manifest : Value)
  | built (document : Document)

/-- The pod that is judged. A document that has been read is its own, whatever its kind. -/
def Submission.readPod : Submission → Except ShapeError (Option Pod)
  | .decoded manifest => PodPolicy.readPod manifest
  | .built document => .ok (some document.pod)

def Engine.assess (e : Engine) : Submission → Except Unjudged (List Violation)
  | .decoded manifest => e.evaluate manifest
  | .built document => (e.verdict document.pod).mapError .fault

end PodPolicy
