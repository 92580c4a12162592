import PodPolicy.Manifest.Document

/-!
# Workloads

A manifest is judged by the pod it leads to. A pod is its own; a controller has
the pod of its template, under the name and namespace of the controller; some
kinds are known to carry no pod; any other kind counts as a pod if it has
containers.
-/

namespace PodPolicy

namespace Workload

/-- Kinds whose template lies at `spec.template`. -/
def templateKinds : List String :=
  ["Deployment", "StatefulSet", "DaemonSet", "ReplicaSet", "Job"]

/-- Kinds that never carry a pod. -/
def podlessKinds : List String :=
  ["Service", "Endpoints", "EndpointSlice", "Ingress", "IngressClass", "NetworkPolicy",
   "ConfigMap", "Secret", "Namespace", "ServiceAccount", "LimitRange", "ResourceQuota",
   "Role", "ClusterRole", "RoleBinding", "ClusterRoleBinding", "PriorityClass",
   "PersistentVolume", "PersistentVolumeClaim", "StorageClass",
   "HorizontalPodAutoscaler", "PodDisruptionBudget", "CustomResourceDefinition",
   "ValidatingWebhookConfiguration", "MutatingWebhookConfiguration"]

/-- A part that is absent or null is empty. -/
def asMapping (path : String) : Value → Except ShapeError Entries
  | .null => .ok []
  | .mapping entries => .ok entries
  | _ => .error (.partNotMapping path)

/-- Where a controller keeps its template. -/
inductive TemplatePlace
  | direct
  | ofJob
deriving DecidableEq, Repr

def TemplatePlace.path : TemplatePlace → String
  | .direct => "spec.template"
  | .ofJob => "spec.jobTemplate.spec.template"

def TemplatePlace.ofKind? (kind : String) : Option TemplatePlace :=
  if templateKinds.contains kind then some .direct
  else if kind = "CronJob" then some .ofJob
  else none

def templateIn (spec : Entries) : TemplatePlace → Except ShapeError Value
  | .direct => .ok (spec.get "template")
  | .ofJob => do
    let job ← asMapping "spec.jobTemplate" (spec.get "jobTemplate")
    let jobSpec ← asMapping "spec.jobTemplate.spec" (job.get "spec")
    return jobSpec.get "template"

/-- The pod of a template: labels and annotations are the template's, the name
is the owner's, and so is the namespace unless it has none. -/
def lift (owner template templateMetadata : Entries) : Value :=
  .record [
    ("apiVersion", .text "v1"),
    ("kind", .text "Pod"),
    ("metadata", .record [
      ("name", owner.get "name"),
      ("namespace", (owner.get "namespace").orElse (templateMetadata.get "namespace")),
      ("labels", (templateMetadata.get "labels").orElse (.mapping [])),
      ("annotations", (templateMetadata.get "annotations").orElse (.mapping []))]),
    ("spec", (template.get "spec").orElse (.mapping []))]

def podOfTemplate (kind : String) (place : TemplatePlace) (entries spec : Entries) :
    Except ShapeError Value := do
  match ← templateIn spec place with
  | .mapping template =>
    let owner ← asMapping "metadata" (entries.get "metadata")
    let templateMetadata ← asMapping (place.path ++ ".metadata") (Entries.get template "metadata")
    return lift owner template templateMetadata
  | _ => .error (.missingTemplate kind place.path)

/-- The pod of a manifest that is neither a pod nor known to carry none. -/
def podOfOther (kind : String) (entries : Entries) : Except ShapeError Value := do
  let spec ← asMapping "spec" (entries.get "spec")
  match TemplatePlace.ofKind? kind with
  | some place => podOfTemplate kind place entries spec
  | none =>
    if spec.has "containers" then return .mapping entries
    else .error (.unknownKind kind)

def extractPod : Value → Except ShapeError (Option Value)
  | .mapping entries => do
    let kind ← kindOf entries
    if kind = "Pod" then return some (.mapping entries)
    else if podlessKinds.contains kind then return none
    else return some (← podOfOther kind entries)
  | _ => .error .notMapping

end Workload

end PodPolicy
