import Mathlib.Data.List.Forall2
import PodPolicy.Proofs.NormalForm

/-!
# Pods with less in them

A pod that is left when optional parts of another are taken away, at any depth.
Nothing is added or changed, the containers and volumes stay, and whatever is
found in the thin pod is found in the whole one.
-/

namespace PodPolicy

def Thinned {α : Type} (thins : α → α → Prop) (thin whole : Option α) : Prop :=
  ∀ a, thin = some a → ∃ b, whole = some b ∧ thins a b

abbrev Kept {α : Type} (thin whole : Option α) : Prop :=
  Thinned (· = ·) thin whole

-- -----------------------------------------------------------------------------
-- Parts
-- -----------------------------------------------------------------------------

structure SeccompProfile.Thins (thin whole : SeccompProfile) : Prop where
  type : Kept thin.type whole.type
  localhostProfile : Kept thin.localhostProfile whole.localhostProfile

structure Capabilities.Thins (thin whole : Capabilities) : Prop where
  add : Kept thin.add whole.add
  drop : Kept thin.drop whole.drop

structure SecurityContext.Thins (thin whole : SecurityContext) : Prop where
  privileged : Kept thin.privileged whole.privileged
  runAsUser : Kept thin.runAsUser whole.runAsUser
  runAsGroup : Kept thin.runAsGroup whole.runAsGroup
  runAsNonRoot : Kept thin.runAsNonRoot whole.runAsNonRoot
  allowPrivilegeEscalation : Kept thin.allowPrivilegeEscalation whole.allowPrivilegeEscalation
  readOnlyRootFilesystem : Kept thin.readOnlyRootFilesystem whole.readOnlyRootFilesystem
  capabilities : Thinned Capabilities.Thins thin.capabilities whole.capabilities
  seccompProfile : Thinned SeccompProfile.Thins thin.seccompProfile whole.seccompProfile

structure PodSecurityContext.Thins (thin whole : PodSecurityContext) : Prop where
  runAsUser : Kept thin.runAsUser whole.runAsUser
  runAsGroup : Kept thin.runAsGroup whole.runAsGroup
  runAsNonRoot : Kept thin.runAsNonRoot whole.runAsNonRoot
  fsGroup : Kept thin.fsGroup whole.fsGroup
  seccompProfile : Thinned SeccompProfile.Thins thin.seccompProfile whole.seccompProfile

structure ResourceRequirements.Thins (thin whole : ResourceRequirements) : Prop where
  limits : Thinned List.Sublist thin.limits whole.limits
  requests : Thinned List.Sublist thin.requests whole.requests

structure ContainerPort.Thins (thin whole : ContainerPort) : Prop where
  name : Kept thin.name whole.name
  containerPort : Kept thin.containerPort whole.containerPort
  hostPort : Kept thin.hostPort whole.hostPort
  protocol : Kept thin.protocol whole.protocol

structure EnvVarSource.Thins (thin whole : EnvVarSource) : Prop where
  secretKeyRef : Kept thin.secretKeyRef whole.secretKeyRef
  configMapKeyRef : Kept thin.configMapKeyRef whole.configMapKeyRef
  fieldRef : Kept thin.fieldRef whole.fieldRef

structure EnvVar.Thins (thin whole : EnvVar) : Prop where
  name : thin.name = whole.name
  value : Kept thin.value whole.value
  valueFrom : Thinned EnvVarSource.Thins thin.valueFrom whole.valueFrom

structure Probe.Thins (thin whole : Probe) : Prop where
  failureThreshold : Kept thin.failureThreshold whole.failureThreshold
  successThreshold : Kept thin.successThreshold whole.successThreshold
  periodSeconds : Kept thin.periodSeconds whole.periodSeconds
  initialDelaySeconds : Kept thin.initialDelaySeconds whole.initialDelaySeconds

structure Lifecycle.Thins (thin whole : Lifecycle) : Prop where
  preStop : Kept thin.preStop whole.preStop
  postStart : Kept thin.postStart whole.postStart

structure Container.Thins (thin whole : Container) : Prop where
  name : thin.name = whole.name
  image : Kept thin.image whole.image
  imagePullPolicy : Kept thin.imagePullPolicy whole.imagePullPolicy
  securityContext : Thinned SecurityContext.Thins thin.securityContext whole.securityContext
  resources : Thinned ResourceRequirements.Thins thin.resources whole.resources
  ports : Thinned (List.Forall₂ ContainerPort.Thins) thin.ports whole.ports
  env : Thinned (List.Forall₂ EnvVar.Thins) thin.env whole.env
  livenessProbe : Thinned Probe.Thins thin.livenessProbe whole.livenessProbe
  readinessProbe : Thinned Probe.Thins thin.readinessProbe whole.readinessProbe
  startupProbe : Thinned Probe.Thins thin.startupProbe whole.startupProbe
  lifecycle : Thinned Lifecycle.Thins thin.lifecycle whole.lifecycle
  volumeMounts : Kept thin.volumeMounts whole.volumeMounts

structure EmptyDir.Thins (thin whole : EmptyDir) : Prop where
  medium : Kept thin.medium whole.medium
  sizeLimit : Kept thin.sizeLimit whole.sizeLimit

structure Volume.Thins (thin whole : Volume) : Prop where
  name : thin.name = whole.name
  hostPath : Kept thin.hostPath whole.hostPath
  emptyDir : Thinned EmptyDir.Thins thin.emptyDir whole.emptyDir

structure PodSpec.Thins (thin whole : PodSpec) : Prop where
  hostNetwork : Kept thin.hostNetwork whole.hostNetwork
  hostPid : Kept thin.hostPid whole.hostPid
  hostIpc : Kept thin.hostIpc whole.hostIpc
  shareProcessNamespace : Kept thin.shareProcessNamespace whole.shareProcessNamespace
  automountServiceAccountToken :
    Kept thin.automountServiceAccountToken whole.automountServiceAccountToken
  terminationGracePeriodSeconds :
    Kept thin.terminationGracePeriodSeconds whole.terminationGracePeriodSeconds
  securityContext : Thinned PodSecurityContext.Thins thin.securityContext whole.securityContext
  volumes : List.Forall₂ Volume.Thins thin.volumes whole.volumes
  containers : List.Forall₂ Container.Thins thin.containers whole.containers

structure Metadata.Thins (thin whole : Metadata) : Prop where
  name : Kept thin.name whole.name
  namespaceName : Kept thin.namespaceName whole.namespaceName
  labels : thin.labels.Sublist whole.labels
  annotations : thin.annotations.Sublist whole.annotations

/-- What is left of a pod when optional parts, labels, annotations and entries of
its limits and requests are taken away. -/
structure Pod.Thins (thin whole : Pod) : Prop where
  kind : thin.kind = whole.kind
  apiVersion : Kept thin.apiVersion whole.apiVersion
  metadata : thin.metadata.Thins whole.metadata
  spec : thin.spec.Thins whole.spec

-- -----------------------------------------------------------------------------
-- Looking into what is left
-- -----------------------------------------------------------------------------

section
variable {α β : Type} {thins : α → α → Prop} {thin whole : Option α}

theorem Thinned.none : Thinned thins none whole :=
  nofun

theorem Kept.refl : Kept whole whole :=
  fun a ha => ⟨a, ha, rfl⟩

theorem Thinned.isSome (h : Thinned thins thin whole) (hthin : thin.isSome) : whole.isSome := by
  obtain ⟨a, ha⟩ := Option.isSome_iff_exists.mp hthin
  obtain ⟨b, hb, -⟩ := h a ha
  simp [hb]

theorem Thinned.isNone (h : Thinned thins thin whole) (hwhole : whole.isNone) : thin.isNone := by
  cases thin with
  | none => rfl
  | some a =>
    have hsome := h.isSome rfl
    rw [Option.isNone_iff_eq_none.mp hwhole] at hsome
    cases hsome

theorem Kept.eq_some {a : α} (h : Kept thin whole) (ha : thin = some a) : whole = some a := by
  obtain ⟨_, hb, rfl⟩ := h a ha
  exact hb

theorem Kept.beq_some [BEq α] {a : α} [LawfulBEq α] (h : Kept thin whole)
    (ha : (thin == some a) = true) : (whole == some a) = true :=
  beq_iff_eq.mpr (h.eq_some (beq_iff_eq.mp ha))

theorem Thinned.any {f : α → Bool} (h : Thinned thins thin whole)
    (hf : ∀ a b, thins a b → f a = true → f b = true) (hthin : thin.any f = true) :
    whole.any f = true := by
  obtain ⟨a, ha, hfa⟩ := (Option.any_eq_true _ _).mp hthin
  obtain ⟨b, hb, hab⟩ := h a ha
  exact (Option.any_eq_true _ _).mpr ⟨b, hb, hf a b hab hfa⟩

theorem Thinned.bind {thins' : β → β → Prop} {f : α → Option β} (h : Thinned thins thin whole)
    (hf : ∀ a b, thins a b → Thinned thins' (f a) (f b)) :
    Thinned thins' (thin.bind f) (whole.bind f) := by
  intro c hc
  obtain ⟨a, ha, hfa⟩ := Option.bind_eq_some_iff.mp hc
  obtain ⟨b, hb, hab⟩ := h a ha
  obtain ⟨d, hd, hcd⟩ := hf a b hab c hfa
  exact ⟨d, Option.bind_eq_some_iff.mpr ⟨b, hb, hd⟩, hcd⟩

end

section
variable {thin whole : Labels} {name : String}

def Labels.NamesOnce (labels : Labels) : Prop :=
  (labels.map Prod.fst).Nodup

theorem Labels.get?_of_mem {value : String} (hnames : whole.NamesOnce)
    (h : (name, value) ∈ whole) : whole.get? name = some value := by
  induction whole with
  | nil => simp at h
  | cons entry rest ih =>
    obtain ⟨hnew, hrest⟩ := List.nodup_cons.mp hnames
    rw [get?, List.lookup_cons]
    rcases List.mem_cons.mp h with rfl | h
    · simp
    · have hne : (name == entry.1) = false :=
        beq_eq_false_iff_ne.mpr fun heq => hnew (heq ▸ List.mem_map_of_mem h)
      rw [hne]
      exact ih hrest h

theorem Labels.mem_of_get? {value : String} (h : thin.get? name = some value) :
    (name, value) ∈ thin := by
  obtain ⟨before, after, rfl, -⟩ := List.lookup_eq_some_iff.mp h
  simp

theorem Labels.get?_kept (h : thin.Sublist whole) (hnames : whole.NamesOnce) :
    Kept (thin.get? name) (whole.get? name) :=
  fun _ hthin => ⟨_, get?_of_mem hnames (h.subset (mem_of_get? hthin)), rfl⟩

theorem Labels.has_of_sublist (h : thin.Sublist whole) (hthin : thin.has name = true) :
    whole.has name = true := by
  obtain ⟨value, hvalue⟩ := Option.isSome_iff_exists.mp hthin
  exact List.lookup_isSome_iff.mpr ⟨_, h.subset (mem_of_get? hvalue), beq_self_eq_true name⟩

theorem Container.Thins.limits {thin whole : Container} (h : thin.Thins whole) :
    thin.limits.Sublist whole.limits := by
  have hlimits := h.resources.bind fun _ _ hresources => hresources.limits
  unfold Container.limits
  cases hthin : thin.resources.bind (·.limits) with
  | none => exact List.nil_sublist _
  | some labels =>
    obtain ⟨all, hall, hsublist⟩ := hlimits labels hthin
    rw [hall]
    exact hsublist

theorem forall₂_any {α : Type} {R : α → α → Prop} {f : α → Bool} {small large : List α}
    (h : List.Forall₂ R small large) (hf : ∀ a b, R a b → f a = true → f b = true)
    (hsmall : small.any f = true) : large.any f = true := by
  induction h with
  | nil => exact hsmall
  | cons hab _ ih =>
    simp only [List.any_cons, Bool.or_eq_true] at hsmall ⊢
    exact hsmall.imp (hf _ _ hab) ih

end

end PodPolicy
