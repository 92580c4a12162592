import PodPolicy.Proofs.DecimalOrder
import PodPolicy.Proofs.Evaluation
import Mathlib.Tactic.NormNum.Pow

/-!
# Compliant pods

What the catalog asks of a pod, said part by part and without a rule: a part
complies by what it has and lacks. Each rule is read as the condition under
which it passes.
-/

namespace PodPolicy

open Numeral

/-- A quantity that can be read and is worth at most `ceiling`. -/
def Quantity.Within (ceiling : Rat) (quantity : String) : Prop :=
  ∃ value, Quantity.parse quantity = .ok value ∧ value.toRat ≤ ceiling

structure SecurityContext.Compliant (context : SecurityContext) : Prop where
  privileged : context.privileged ≠ some true
  runAsUser : context.runAsUser ≠ some 0
  runAsNonRoot : context.runAsNonRoot = some true
  escalation : context.allowPrivilegeEscalation ≠ some true
  readOnlyRoot : context.readOnlyRootFilesystem = some true
  dropsAll : ∃ capabilities, context.capabilities = some capabilities ∧
    ∃ dropped, capabilities.drop = some dropped ∧ "ALL" ∈ dropped

structure ResourceRequirements.Compliant (resources : ResourceRequirements) : Prop where
  limits : ∃ limits, resources.limits = some limits ∧
    (∀ memory, limits.get? "memory" = some memory → Quantity.Within (2 ^ 31) memory) ∧
    (∀ cpu, limits.get? "cpu" = some cpu → Quantity.Within 2 cpu)
  requests : resources.requests.isSome

/-- A probe that may fail at most `ceiling` times, if it says how often. -/
def Probe.Within (ceiling : Int) (probe : Probe) : Prop :=
  ∀ n, probe.failureThreshold = some n → n ≤ ceiling

/-- A UDP port has a name. -/
def ContainerPort.Compliant (port : ContainerPort) : Prop :=
  port.protocol = some "UDP" → ∃ name, port.name = some name ∧ name ≠ ""

def EnvVar.Compliant (v : EnvVar) : Prop :=
  v.name = "SECRET_KEY" → ∃ source, v.valueFrom = some source ∧ source.secretKeyRef.isSome

structure Container.Compliant (inProduction : Prop) (c : Container) : Prop where
  securityContext : ∃ context, c.securityContext = some context ∧ context.Compliant
  resources : ∃ resources, c.resources = some resources ∧ resources.Compliant
  livenessProbe : ∃ probe, c.livenessProbe = some probe ∧ probe.Within 5
  readinessProbe : ∃ probe, c.readinessProbe = some probe ∧ probe.Within 5
  startupProbe : ∀ probe, c.startupProbe = some probe → probe.Within 30
  image : ∀ image, c.image = some image → ¬":latest".toList <:+ image.toList
  pullPolicy : c.imagePullPolicy.isSome
  productionPull : inProduction → c.imagePullPolicy ≠ some "Always"
  volumeMounts : c.volumeMounts.isSome
  ports : ∃ ports, c.ports = some ports ∧ ∀ port ∈ ports, port.Compliant
  env : ∃ env, c.env = some env ∧ ∀ v ∈ env, v.Compliant
  preStop : ∃ lifecycle, c.lifecycle = some lifecycle ∧ lifecycle.preStop.isSome

structure Volume.Compliant (v : Volume) : Prop where
  hostPath : v.hostPath = none
  emptyDir : ∀ dir, v.emptyDir = some dir →
    ∃ size, dir.sizeLimit = some size ∧ Quantity.Within (2 ^ 30) size

def Pod.InProduction (pod : Pod) : Prop :=
  pod.metadata.namespaceName = some "production"

structure Pod.Compliant (pod : Pod) : Prop where
  seccomp : ∃ context, pod.spec.securityContext = some context ∧
    ∃ profile, context.seccompProfile = some profile ∧
      ∃ type, profile.type = some type ∧ type ≠ ""
  hostNetwork : pod.spec.hostNetwork ≠ some true
  hostPid : pod.spec.hostPid ≠ some true
  hostIpc : pod.spec.hostIpc ≠ some true
  processNamespace : pod.spec.shareProcessNamespace ≠ some true
  accountToken : pod.spec.automountServiceAccountToken ≠ some true
  gracePeriod : ∃ n, pod.spec.terminationGracePeriodSeconds = some n ∧ n ≤ 60
  labels : ∀ label ∈ ["app", "compliance", "environment"], pod.metadata.labels.has label
  annotations : ∀ annotation ∈ ["kubernetes.io/psp", "prometheus.io/scrape"],
    pod.metadata.annotations.has annotation
  injection : pod.InProduction → ∀ inject,
    pod.metadata.annotations.get? "sidecar.istio.io/inject" = some inject →
      Text.lower inject ≠ "true"
  containers : ∀ c ∈ pod.spec.containers, c.Compliant pod.InProduction
  volumes : ∀ v ∈ pod.spec.volumes, v.Compliant

-- -----------------------------------------------------------------------------
-- Findings
-- -----------------------------------------------------------------------------

namespace Finding

variable {holds : Bool} {message : String}

theorem when_nothing : when holds message = .ok none ↔ holds = false := by
  cases holds <;> simp [when]

theorem whenExceeds_nothing {quantity ceiling : String} {limit : Decimal}
    (hlimit : Quantity.parse ceiling = .ok limit) :
    whenExceeds (.text quantity) (.text ceiling) message = .ok none ↔
      Quantity.Within limit.toRat quantity := by
  have hnot (value : Decimal) :
      (value.compare limit == .gt) = false ↔ value.toRat ≤ limit.toRat := by
    rw [Decimal.compare_eq, beq_eq_false_iff_ne, ne_eq, compare_gt_iff_gt, not_lt]
  simp only [whenExceeds, Quantity.exceeds, Quantity.compare, Quantity.parseValue, hlimit, bind_ok,
    pure_ok, when_nothing, Quantity.Within, ← hnot]
  grind

theorem whenAbove_nothing {ceiling : Int} {n? : Option Int} {message : Int → String} :
    Catalog.whenAbove ceiling n? message = .ok none ↔ ∀ n, n? = some n → n ≤ ceiling := by
  cases n? <;> simp [Catalog.whenAbove, nothing, when_nothing]

end Finding

-- -----------------------------------------------------------------------------
-- Subjects
-- -----------------------------------------------------------------------------

namespace Rule

variable {id category description : String} {severity : Severity} {pod : Pod}

theorem passes_pod {check figure} :
    (Rule.mk id .pod severity category description check figure).Passes pod ↔
      check pod () = .ok none :=
  ⟨fun h => h () (List.mem_singleton.mpr rfl), fun h _ _ => h⟩

theorem passes_container {check figure} :
    (Rule.mk id .container severity category description check figure).Passes pod ↔
      ∀ c ∈ pod.spec.containers, check pod c = .ok none :=
  Iff.rfl

theorem passes_volume {check figure} :
    (Rule.mk id .volume severity category description check figure).Passes pod ↔
      ∀ v ∈ pod.spec.volumes, check pod v = .ok none :=
  Iff.rfl

theorem passes_port {check figure} :
    (Rule.mk id .port severity category description check figure).Passes pod ↔
      ∀ c ∈ pod.spec.containers, ∀ port ∈ c.portList, check pod (c, port) = .ok none := by
  simp only [Passes, Scope.subjects, List.forall_mem_flatMap, List.forall_mem_map]

theorem passes_env {check figure} :
    (Rule.mk id .env severity category description check figure).Passes pod ↔
      ∀ c ∈ pod.spec.containers, ∀ v ∈ c.envList, check pod (c, v) = .ok none := by
  simp only [Passes, Scope.subjects, List.forall_mem_flatMap, List.forall_mem_map]

end Rule

namespace Catalog

open Finding Rule

variable {pod : Pod}

-- -----------------------------------------------------------------------------
-- Rules about the pod
-- -----------------------------------------------------------------------------

theorem seccompProfile_passes : seccompProfile.Passes pod ↔
    ∃ context, pod.spec.securityContext = some context ∧
      ∃ profile, context.seccompProfile = some profile ∧
        ∃ type, profile.type = some type ∧ type ≠ "" := by
  simp [seccompProfile, passes_pod, when_nothing, seccompType?, Option.any_bind,
    Option.any_eq_true]

theorem podSecurityContext_passes :
    podSecurityContext.Passes pod ↔ pod.spec.securityContext.isSome := by
  simp [podSecurityContext, passes_pod, when_nothing]

theorem hostNetwork_passes : hostNetwork.Passes pod ↔ pod.spec.hostNetwork ≠ some true := by
  simp [hostNetwork, passes_pod, when_nothing]

theorem hostPid_passes : hostPid.Passes pod ↔ pod.spec.hostPid ≠ some true := by
  simp [hostPid, passes_pod, when_nothing]

theorem hostIpc_passes : hostIpc.Passes pod ↔ pod.spec.hostIpc ≠ some true := by
  simp [hostIpc, passes_pod, when_nothing]

theorem shareProcessNamespace_passes :
    shareProcessNamespace.Passes pod ↔ pod.spec.shareProcessNamespace ≠ some true := by
  simp [shareProcessNamespace, passes_pod, when_nothing]

theorem automountServiceAccountToken_passes :
    automountServiceAccountToken.Passes pod ↔
      pod.spec.automountServiceAccountToken ≠ some true := by
  simp [automountServiceAccountToken, passes_pod, when_nothing]

theorem terminationGracePeriod_passes :
    terminationGracePeriod.Passes pod ↔ pod.spec.terminationGracePeriodSeconds.isSome := by
  simp [terminationGracePeriod, passes_pod, when_nothing]

theorem terminationGracePeriodCeiling_passes : terminationGracePeriodCeiling.Passes pod ↔
    ∀ n, pod.spec.terminationGracePeriodSeconds = some n → n ≤ 60 := by
  simp only [terminationGracePeriodCeiling, passes_pod, whenAbove_nothing, gracePeriodCeiling]

theorem labelRule_passes {label : String} :
    (labelRule label).Passes pod ↔ pod.metadata.labels.has label := by
  simp [labelRule, passes_pod, when_nothing]

theorem annotationRule_passes {id annotation category : String} :
    (annotationRule id annotation category).Passes pod ↔
      pod.metadata.annotations.has annotation := by
  simp [passes_pod, annotationRule, when_nothing]

theorem inProduction_iff : inProduction pod = true ↔ pod.InProduction := by
  simp [inProduction, Pod.InProduction, productionNamespace]

theorem productionIstioInjection_passes : productionIstioInjection.Passes pod ↔
    (pod.InProduction → ∀ inject,
      pod.metadata.annotations.get? "sidecar.istio.io/inject" = some inject →
        Text.lower inject ≠ "true") := by
  simp [productionIstioInjection, passes_pod, when_nothing, ← inProduction_iff, injectAnnotation,
    Option.any_eq_false]

-- -----------------------------------------------------------------------------
-- Rules about security contexts
-- -----------------------------------------------------------------------------

theorem containerSecurityContext_passes : containerSecurityContext.Passes pod ↔
    ∀ c ∈ pod.spec.containers, c.securityContext.isSome := by
  simp [containerSecurityContext, passes_container, when_nothing]

theorem privilegedContainers_passes : privilegedContainers.Passes pod ↔
    ∀ c ∈ pod.spec.containers, ∀ context, c.securityContext = some context →
      context.privileged ≠ some true := by
  simp [privilegedContainers, passes_pod, when_nothing, isPrivileged, Option.any_eq_false]

theorem runAsRoot_passes : runAsRoot.Passes pod ↔
    ∀ c ∈ pod.spec.containers, ∀ context, c.securityContext = some context →
      context.runAsUser ≠ some 0 := by
  simp [runAsRoot, passes_container, when_nothing, Option.any_eq_false]

theorem runAsNonRoot_passes : runAsNonRoot.Passes pod ↔
    ∀ c ∈ pod.spec.containers, ∃ context, c.securityContext = some context ∧
      context.runAsNonRoot = some true := by
  simp [runAsNonRoot, passes_container, when_nothing, Option.any_eq_true]

theorem privilegeEscalation_passes : privilegeEscalation.Passes pod ↔
    ∀ c ∈ pod.spec.containers, ∀ context, c.securityContext = some context →
      context.allowPrivilegeEscalation ≠ some true := by
  simp [privilegeEscalation, passes_container, when_nothing, Option.any_eq_false]

theorem readOnlyRootFilesystem_passes : readOnlyRootFilesystem.Passes pod ↔
    ∀ c ∈ pod.spec.containers, ∃ context, c.securityContext = some context ∧
      context.readOnlyRootFilesystem = some true := by
  simp [readOnlyRootFilesystem, passes_container, when_nothing, Option.any_eq_true]

theorem dropAllCapabilities_passes : dropAllCapabilities.Passes pod ↔
    ∀ c ∈ pod.spec.containers, ∃ context, c.securityContext = some context ∧
      ∃ capabilities, context.capabilities = some capabilities ∧
        ∃ dropped, capabilities.drop = some dropped ∧ "ALL" ∈ dropped := by
  have hdropped (o : Option (List String)) :
      "ALL" ∈ o.getD [] ↔ ∃ dropped, o = some dropped ∧ "ALL" ∈ dropped := by
    cases o <;> simp
  simp only [dropAllCapabilities, passes_container, when_nothing, droppedCapabilities,
    Bool.not_eq_false', List.contains_iff_mem, hdropped, Option.bind_eq_some_iff]
  grind

-- -----------------------------------------------------------------------------
-- Rules about resources
-- -----------------------------------------------------------------------------

theorem resourceLimits_passes : resourceLimits.Passes pod ↔
    ∀ c ∈ pod.spec.containers, ∃ resources, c.resources = some resources ∧
      resources.limits.isSome := by
  simp [resourceLimits, passes_container, when_nothing, Option.isSome_bind, Option.any_eq_true]

theorem resourceRequests_passes : resourceRequests.Passes pod ↔
    ∀ c ∈ pod.spec.containers, ∃ resources, c.resources = some resources ∧
      resources.requests.isSome := by
  simp [resourceRequests, passes_container, when_nothing, Option.isSome_bind, Option.any_eq_true]

theorem memoryLimitCeiling_passes : memoryLimitCeiling.Passes pod ↔
    ∀ c ∈ pod.spec.containers, ∀ memory, c.limits.get? "memory" = some memory →
      Quantity.Within (2 ^ 31) memory := by
  have hlimit : Quantity.parse memoryCeiling = .ok ⟨false, 2147483648, 0⟩ := rfl
  have hvalue : Decimal.toRat ⟨false, 2147483648, 0⟩ = 2 ^ 31 := by norm_num [Decimal.toRat]
  simp only [memoryLimitCeiling, passes_container]
  refine forall₂_congr fun c _ => ?_
  cases c.limits.get? "memory" <;> simp [nothing, whenExceeds_nothing hlimit, hvalue]

theorem cpuLimitCeiling_passes : cpuLimitCeiling.Passes pod ↔
    ∀ c ∈ pod.spec.containers, ∀ cpu, c.limits.get? "cpu" = some cpu →
      Quantity.Within 2 cpu := by
  have hlimit : Quantity.parse cpuCeiling = .ok ⟨false, 2000, -3⟩ := rfl
  have hvalue : Decimal.toRat ⟨false, 2000, -3⟩ = 2 := by norm_num [Decimal.toRat]
  simp only [cpuLimitCeiling, passes_container]
  refine forall₂_congr fun c _ => ?_
  cases c.limits.get? "cpu" <;> simp [nothing, whenExceeds_nothing hlimit, hvalue]

-- -----------------------------------------------------------------------------
-- Rules about images, probes and the rest of a container
-- -----------------------------------------------------------------------------

theorem latestImageTag_passes : latestImageTag.Passes pod ↔
    ∀ c ∈ pod.spec.containers, ∀ image, c.image = some image →
      ¬":latest".toList <:+ image.toList := by
  simp only [latestImageTag, latestTag, passes_container, when_nothing, Option.any_eq_false,
    ← List.isSuffixOf_iff_suffix, Bool.not_eq_true]

theorem imagePullPolicy_passes : imagePullPolicy.Passes pod ↔
    ∀ c ∈ pod.spec.containers, c.imagePullPolicy.isSome := by
  simp [imagePullPolicy, passes_container, when_nothing]

theorem productionPullPolicy_passes : productionPullPolicy.Passes pod ↔
    ∀ c ∈ pod.spec.containers, pod.InProduction → c.imagePullPolicy ≠ some "Always" := by
  simp [productionPullPolicy, passes_container, when_nothing, ← inProduction_iff]

theorem livenessProbe_passes : livenessProbe.Passes pod ↔
    ∀ c ∈ pod.spec.containers, c.livenessProbe.isSome := by
  simp [livenessProbe, passes_container, when_nothing]

theorem readinessProbe_passes : readinessProbe.Passes pod ↔
    ∀ c ∈ pod.spec.containers, c.readinessProbe.isSome := by
  simp [readinessProbe, passes_container, when_nothing]

theorem probeThreshold_passes {id name : String} {probe : Container → Option Probe}
    {ceiling : Int} : (probeThreshold id name probe ceiling).Passes pod ↔
      ∀ c ∈ pod.spec.containers, ∀ p, probe c = some p → p.Within ceiling := by
  simp only [probeThreshold, passes_container, whenAbove_nothing, Option.bind_eq_some_iff,
    Probe.Within]
  grind

theorem volumeMounts_passes : volumeMounts.Passes pod ↔
    ∀ c ∈ pod.spec.containers, c.volumeMounts.isSome := by
  simp [volumeMounts, passes_container, when_nothing]

theorem containerPorts_passes : containerPorts.Passes pod ↔
    ∀ c ∈ pod.spec.containers, c.ports.isSome := by
  simp [containerPorts, passes_container, when_nothing]

theorem unnamedUdpPort_passes : unnamedUdpPort.Passes pod ↔
    ∀ c ∈ pod.spec.containers, ∀ port ∈ c.portList, port.Compliant := by
  simp [unnamedUdpPort, passes_port, when_nothing, ContainerPort.Compliant, Option.any_eq_true]

theorem containerEnv_passes : containerEnv.Passes pod ↔
    ∀ c ∈ pod.spec.containers, c.env.isSome := by
  simp [containerEnv, passes_container, when_nothing]

theorem secretKeyRef_passes : secretKeyRef.Passes pod ↔
    ∀ c ∈ pod.spec.containers, ∀ v ∈ c.envList, v.Compliant := by
  simp [secretKeyRef, passes_env, when_nothing, EnvVar.Compliant, Option.isSome_bind,
    Option.any_eq_true]

theorem lifecycleHooks_passes : lifecycleHooks.Passes pod ↔
    ∀ c ∈ pod.spec.containers, c.lifecycle.isSome := by
  simp [lifecycleHooks, passes_container, when_nothing]

theorem preStopHook_passes : preStopHook.Passes pod ↔
    ∀ c ∈ pod.spec.containers, ∃ lifecycle, c.lifecycle = some lifecycle ∧
      lifecycle.preStop.isSome := by
  simp [preStopHook, passes_container, when_nothing, Option.isSome_bind, Option.any_eq_true]

-- -----------------------------------------------------------------------------
-- Rules about volumes
-- -----------------------------------------------------------------------------

theorem hostPathVolume_passes : hostPathVolume.Passes pod ↔
    ∀ v ∈ pod.spec.volumes, v.hostPath = none := by
  simp [hostPathVolume, passes_volume, when_nothing]

theorem emptyDirSizeLimit_passes : emptyDirSizeLimit.Passes pod ↔
    ∀ v ∈ pod.spec.volumes, ∀ dir, v.emptyDir = some dir → dir.sizeLimit.isSome := by
  simp [emptyDirSizeLimit, passes_volume, when_nothing, Option.any_eq_false]

theorem emptyDirSizeCeiling_passes : emptyDirSizeCeiling.Passes pod ↔
    ∀ v ∈ pod.spec.volumes, ∀ dir, v.emptyDir = some dir →
      ∀ size, dir.sizeLimit = some size → Quantity.Within (2 ^ 30) size := by
  have hlimit : Quantity.parse emptyDirCeiling = .ok ⟨false, 1073741824, 0⟩ := rfl
  have hvalue : Decimal.toRat ⟨false, 1073741824, 0⟩ = 2 ^ 30 := by norm_num [Decimal.toRat]
  simp only [emptyDirSizeCeiling, passes_volume]
  refine forall₂_congr fun v _ => ?_
  cases v.emptyDir with
  | none => simp [nothing]
  | some dir =>
    cases h : dir.sizeLimit <;> simp [h, nothing, whenExceeds_nothing hlimit, hvalue]

end Catalog

end PodPolicy
