import PodPolicy.Manifest.Pod
import PodPolicy.Quantity

/-!
# Rules

A rule looks at one subject at a time: the pod, a container, a volume, a port or
an environment variable, as its scope says. It finds nothing, finds something
and says what, or meets a quantity that it cannot read.
-/

namespace PodPolicy

inductive Severity
  | critical
  | high
  | medium
  | low
deriving DecidableEq, Repr

def Severity.word : Severity → String
  | .critical => "critical"
  | .high => "high"
  | .medium => "medium"
  | .low => "low"

inductive Scope
  | pod
  | container
  | volume
  | port
  | env
deriving DecidableEq, Repr

namespace Scope

def all : List Scope := [.pod, .container, .volume, .port, .env]

def word : Scope → String
  | .pod => "pod"
  | .container => "container"
  | .volume => "volume"
  | .port => "port"
  | .env => "env"

/-- What a rule of this scope looks at beside the pod; a port and an environment
variable come with their container. -/
@[reducible]
def Subject : Scope → Type
  | .pod => Unit
  | .container => Container
  | .volume => Volume
  | .port => Container × ContainerPort
  | .env => Container × EnvVar

/-- The subjects in a pod, in the order of the manifest. -/
def subjects : (s : Scope) → Pod → List s.Subject
  | .pod, _ => [()]
  | .container, p => p.spec.containers
  | .volume, p => p.spec.volumes
  | .port, p => p.spec.containers.flatMap fun c => c.portList.map (c, ·)
  | .env, p => p.spec.containers.flatMap fun c => c.envList.map (c, ·)

def containerName? : (s : Scope) → s.Subject → Option String
  | .pod, _ => none
  | .container, c => some c.name
  | .volume, _ => none
  | .port, (c, _) => some c.name
  | .env, (c, _) => some c.name

def volumeName? : (s : Scope) → s.Subject → Option String
  | .volume, v => some v.name
  | _, _ => none

def describe (s : Scope) (subject : s.Subject) : String :=
  match s.containerName? subject, s.volumeName? subject with
  | some name, _ => s!"Container {name}"
  | none, some name => s!"Volume {name}"
  | none, none => "Pod"

end Scope

/-- What a rule says of a subject. -/
abbrev Finding := Except Quantity.Error (Option String)

namespace Finding

def nothing : Finding := .ok none

def when (holds : Bool) (message : String) : Finding :=
  .ok (if holds then some message else none)

def whenExceeds (quantity ceiling : Value) (message : String) : Finding := do
  let isOver ← Quantity.exceeds quantity ceiling
  when isOver message

end Finding

structure Rule where
  id : String
  scope : Scope
  severity : Severity
  category : String
  description : String
  check : Pod → scope.Subject → Finding
  /-- The number of the subject that its message tells, if it tells one. -/
  figure : Pod → scope.Subject → Option Int := fun _ _ => none

structure RuleInfo where
  id : String
  scope : Scope
  severity : Severity
  category : String
  description : String
deriving DecidableEq, Repr

def Rule.info (r : Rule) : RuleInfo :=
  ⟨r.id, r.scope, r.severity, r.category, r.description⟩

-- -----------------------------------------------------------------------------
-- Violations
-- -----------------------------------------------------------------------------

inductive ViolationKind
  | policy
  | unparsableQuantity
deriving DecidableEq, Repr

def ViolationKind.word : ViolationKind → String
  | .policy => "policy"
  | .unparsableQuantity => "unparsable_quantity"

structure Violation where
  ruleId : String
  message : String
  kind : ViolationKind
  severity : Severity
  category : String
  container : Option String
  volume : Option String
deriving DecidableEq, Repr

namespace Rule

def violation (r : Rule) (subject : r.scope.Subject) (kind : ViolationKind) (message : String) :
    Violation :=
  { ruleId := r.id
    message := message
    kind := kind
    severity := r.severity
    category := r.category
    container := r.scope.containerName? subject
    volume := r.scope.volumeName? subject }

/-- The violation that a rule reports for a subject. A quantity that cannot be
read is one too, of its own kind. -/
def judge (r : Rule) (pod : Pod) (subject : r.scope.Subject) : Option Violation :=
  match r.check pod subject with
  | .ok none => none
  | .ok (some message) => some (r.violation subject .policy message)
  | .error e => some (r.violation subject .unparsableQuantity
      s!"{r.scope.describe subject} has an unparsable quantity '{e.quantity.display}' ({r.id})")

def warn (r : Rule) (pod : Pod) (subject : r.scope.Subject) : Option String :=
  match r.check pod subject with
  | .ok _ => none
  | .error e => some
      s!"Rule {r.id} could not parse quantity {e.quantity.literal} for {r.scope.describe subject}"

/-- A message can be told unless its number is too long. -/
def canTell (r : Rule) (pod : Pod) (subject : r.scope.Subject) : Bool :=
  match r.check pod subject with
  | .ok (some _) => (r.figure pod subject).all Numeral.isTellable
  | _ => true

def canTellAll (r : Rule) (pod : Pod) : Bool :=
  (r.scope.subjects pod).all (r.canTell pod)

def violations (r : Rule) (pod : Pod) : List Violation :=
  (r.scope.subjects pod).filterMap (r.judge pod)

def warnings (r : Rule) (pod : Pod) : List String :=
  (r.scope.subjects pod).filterMap (r.warn pod)

end Rule

end PodPolicy
