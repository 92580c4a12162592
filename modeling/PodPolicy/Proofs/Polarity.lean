import PodPolicy.Proofs.Thinning

/-!
# Rules against values and rules against absence

A rule against a value finds no more where there is less, and a rule against
absence finds no less. `assess_thinned`: what an engine of the one kind of rules
finds in a thin pod is part of what it finds in the whole one, and for the other
kind it is the reverse.
-/

namespace PodPolicy

-- -----------------------------------------------------------------------------
-- Finding less
-- -----------------------------------------------------------------------------

/-- Nothing, or the same. -/
def Finding.Less (f g : Finding) : Prop :=
  f = .ok none ∨ f = g

namespace Finding

variable {fires fires' : Bool} {message : String}

theorem when_less (h : fires = true → fires' = true) :
    (when fires message).Less (when fires' message) := by
  cases fires with
  | false => exact .inl rfl
  | true => exact .inr (by rw [h rfl])

theorem when_not_less (h : fires = true → fires' = true) :
    (when (!fires') message).Less (when (!fires) message) :=
  when_less fun hnot => by
    cases fires with
    | false => rfl
    | true => simp [h rfl] at hnot

theorem whenAbove_less {ceiling : Int} {small large : Option Int} {message : Int → String}
    (h : Kept small large) :
    (Catalog.whenAbove ceiling small message).Less (Catalog.whenAbove ceiling large message) := by
  cases small with
  | none => exact .inl rfl
  | some n => exact .inr (by rw [h.eq_some rfl])

end Finding

structure Rule.Within (r : Rule) (small large : Pod) (x y : r.scope.Subject) : Prop where
  container : r.scope.containerName? x = r.scope.containerName? y
  volume : r.scope.volumeName? x = r.scope.volumeName? y
  check : (r.check small x).Less (r.check large y)
  figure : Kept (r.figure small x) (r.figure large y)

def Rule.FindsLess (r : Rule) (small large : Pod) : Prop :=
  List.Forall₂ (r.Within small large) (r.scope.subjects small) (r.scope.subjects large)

section
variable {α β γ : Type} {r : Rule} {small large : Pod} {e : Engine} {found : List Violation}

theorem filterMap_sublist {R : α → β → Prop} {f : α → Option γ} {g : β → Option γ} {xs : List α}
    {ys : List β} (h : List.Forall₂ R xs ys) (hR : ∀ x y, R x y → f x = none ∨ f x = g y) :
    (xs.filterMap f).Sublist (ys.filterMap g) := by
  induction h with
  | nil => exact List.Sublist.refl _
  | @cons x y xs ys hxy _ ih =>
    rw [List.filterMap_cons, List.filterMap_cons]
    rcases hR x y hxy with hnone | heq
    · rw [hnone]
      cases g y with
      | none => exact ih
      | some c => exact ih.cons c
    · rw [heq]
      cases g y with
      | none => exact ih
      | some c => exact ih.cons_cons c

theorem forall₂_of_right {R S : α → β → Prop} {P : β → Prop} {xs : List α} {ys : List β}
    (h : List.Forall₂ R xs ys) (hys : ∀ y ∈ ys, P y) (hS : ∀ x y, R x y → P y → S x y) :
    List.Forall₂ S xs ys := by
  induction h with
  | nil => exact .nil
  | cons hxy _ ih =>
    rw [List.forall_mem_cons] at hys
    exact .cons (hS _ _ hxy hys.1) (ih hys.2)

theorem flatMap_sublist {f g : α → List γ} {xs : List α} (h : ∀ x ∈ xs, (f x).Sublist (g x)) :
    (xs.flatMap f).Sublist (xs.flatMap g) := by
  induction xs with
  | nil => exact List.Sublist.refl _
  | cons x rest ih =>
    rw [List.flatMap_cons, List.flatMap_cons]
    exact (h x List.mem_cons_self).append (ih fun y hy => h y (List.mem_cons_of_mem x hy))

theorem forall₂_forall {R : α → β → Prop} {P : α → Prop} {Q : β → Prop} {xs : List α}
    {ys : List β} (h : List.Forall₂ R xs ys) (hR : ∀ x y, R x y → Q y → P x)
    (hys : ∀ y ∈ ys, Q y) : ∀ x ∈ xs, P x := by
  induction h with
  | nil => exact nofun
  | cons hxy _ ih =>
    rw [List.forall_mem_cons] at hys ⊢
    exact ⟨hR _ _ hxy hys.1, ih hys.2⟩

namespace Rule

theorem Within.judge {x y : r.scope.Subject} (h : r.Within small large x y) :
    r.judge small x = none ∨ r.judge small x = r.judge large y := by
  refine h.check.imp judge_none.mpr fun heq => ?_
  simp only [Rule.judge, heq, violation, Scope.describe, h.container, h.volume]

theorem Within.canTell {x y : r.scope.Subject} (h : r.Within small large x y)
    (hlarge : r.canTell large y = true) : r.canTell small x = true := by
  unfold Rule.canTell at hlarge ⊢
  rcases h.check with hnone | heq
  · rw [hnone]
  · rw [heq]
    split at hlarge
    · simp only [Option.all_eq_true] at hlarge ⊢
      exact fun n hn => hlarge n (h.figure.eq_some hn)
    · rfl

theorem FindsLess.violations (h : r.FindsLess small large) :
    (r.violations small).Sublist (r.violations large) :=
  filterMap_sublist h fun _ _ hwithin => hwithin.judge

theorem FindsLess.canTellAll (h : r.FindsLess small large) (hlarge : r.canTellAll large = true) :
    r.canTellAll small = true := by
  simp only [Rule.canTellAll, List.all_eq_true] at hlarge ⊢
  exact forall₂_forall h (fun _ _ hwithin => hwithin.canTell) hlarge

end Rule

theorem Engine.verdict_less (h : ∀ r ∈ e.activeRules, r.FindsLess small large)
    (hlarge : e.verdict large = .ok found) :
    ∃ part, e.verdict small = .ok part ∧ part.Sublist found := by
  unfold Engine.verdict at hlarge
  split at hlarge
  · rename_i htell
    cases hlarge
    have hsmall : e.canTell small = true := by
      simp only [Engine.canTell, List.all_eq_true] at htell ⊢
      exact fun r hr => (h r hr).canTellAll (htell r hr)
    refine ⟨e.judge small, by rw [Engine.verdict, if_pos hsmall], ?_⟩
    exact flatMap_sublist fun r hr => (h r hr).violations
  · cases hlarge

end

-- -----------------------------------------------------------------------------
-- The two kinds of rules
-- -----------------------------------------------------------------------------

/-- No name stands for two annotations or two limits. -/
structure Pod.NamesOnce (pod : Pod) : Prop where
  annotations : pod.metadata.annotations.NamesOnce
  limits : ∀ c ∈ pod.spec.containers, c.limits.NamesOnce

namespace Rule

/-- A rule against a value finds no more where there is less. -/
def AgainstValue (r : Rule) : Prop :=
  ∀ thin whole : Pod, thin.Thins whole → whole.NamesOnce → r.FindsLess thin whole

/-- A rule against absence finds no less, and tells no number. -/
structure AgainstAbsence (r : Rule) : Prop where
  findsLess : ∀ thin whole : Pod, thin.Thins whole → r.FindsLess whole thin
  figure : ∀ pod subject, r.figure pod subject = none

section
variable {id category description : String} {severity : Severity}

theorem againstValue_pod {check figure}
    (hcheck : ∀ thin whole : Pod, thin.Thins whole → whole.metadata.annotations.NamesOnce →
      (check thin ()).Less (check whole ()))
    (hfigure : ∀ thin whole : Pod, thin.Thins whole → Kept (figure thin ()) (figure whole ())) :
    (Rule.mk id .pod severity category description check figure).AgainstValue :=
  fun thin whole h hnames =>
    .cons ⟨rfl, rfl, hcheck thin whole h hnames.annotations, hfigure thin whole h⟩ .nil

theorem againstValue_container {check figure}
    (hcheck : ∀ thin whole : Pod, thin.Thins whole → ∀ c d : Container, c.Thins d →
      d.limits.NamesOnce → (check thin c).Less (check whole d))
    (hfigure : ∀ thin whole : Pod, ∀ c d : Container, c.Thins d →
      Kept (figure thin c) (figure whole d)) :
    (Rule.mk id .container severity category description check figure).AgainstValue := by
  intro thin whole h hnames
  refine forall₂_of_right h.spec.containers hnames.limits fun c d hthins hlimits => ?_
  exact ⟨congrArg some hthins.name, rfl, hcheck thin whole h c d hthins hlimits,
    hfigure thin whole c d hthins⟩

theorem againstValue_volume {check}
    (hcheck : ∀ thin whole : Pod, ∀ v w : Volume, v.Thins w →
      (check thin v).Less (check whole w)) :
    (Rule.mk id .volume severity category description check fun _ _ => none).AgainstValue :=
  fun thin whole h _ => h.spec.volumes.imp fun v w hthins =>
    ⟨rfl, congrArg some hthins.name, hcheck thin whole v w hthins, nofun⟩

theorem againstAbsence_pod {check}
    (hcheck : ∀ thin whole : Pod, thin.Thins whole → (check whole ()).Less (check thin ())) :
    (Rule.mk id .pod severity category description check fun _ _ => none).AgainstAbsence :=
  ⟨fun thin whole h => .cons ⟨rfl, rfl, hcheck thin whole h, nofun⟩ .nil, fun _ _ => rfl⟩

theorem againstAbsence_container {check}
    (hcheck : ∀ thin whole : Pod, ∀ c d : Container, c.Thins d →
      (check whole d).Less (check thin c)) :
    (Rule.mk id .container severity category description check fun _ _ => none).AgainstAbsence :=
  ⟨fun thin whole h => List.Forall₂.flip (h.spec.containers.imp fun c d hthins =>
    ⟨congrArg some hthins.name.symm, rfl, hcheck thin whole c d hthins, nofun⟩), fun _ _ => rfl⟩

end

end Rule

section
open Catalog Rule

def valueRules : List Rule :=
  [privilegedContainers, runAsRoot, privilegeEscalation, hostNetwork, hostPid, hostIpc,
   memoryLimitCeiling, cpuLimitCeiling, latestImageTag, productionPullPolicy,
   automountServiceAccountToken, shareProcessNamespace, terminationGracePeriodCeiling,
   hostPathVolume, emptyDirSizeCeiling, startupProbeThreshold, livenessProbeThreshold,
   readinessProbeThreshold, productionIstioInjection]

def absenceRules : List Rule :=
  [runAsNonRoot, readOnlyRootFilesystem, dropAllCapabilities, seccompProfile, resourceLimits,
   resourceRequests, livenessProbe, readinessProbe, containerSecurityContext, podSecurityContext,
   imagePullPolicy, labelRule "app", labelRule "compliance", labelRule "environment",
   terminationGracePeriod, volumeMounts, containerPorts, containerEnv, lifecycleHooks,
   preStopHook, pspRule, scrapeRule]

theorem inProduction_kept {thin whole : Pod} (h : thin.Thins whole)
    (hthin : inProduction thin = true) : inProduction whole = true :=
  h.metadata.namespaceName.beq_some hthin

theorem isPrivileged_kept {c d : Container} (h : c.Thins d) (hc : isPrivileged c = true) :
    isPrivileged d = true :=
  h.securityContext.any (fun _ _ hcontext => hcontext.privileged.beq_some) hc

theorem probeThreshold_againstValue {id name : String} {probe : Container → Option Probe}
    {ceiling : Int} (hprobe : ∀ c d : Container, c.Thins d →
      Thinned Probe.Thins (probe c) (probe d)) :
    (probeThreshold id name probe ceiling).AgainstValue := by
  have hthreshold (c d : Container) (h : c.Thins d) :
      Kept ((probe c).bind (·.failureThreshold)) ((probe d).bind (·.failureThreshold)) :=
    (hprobe c d h).bind fun _ _ hthins => hthins.failureThreshold
  refine againstValue_container (fun _ _ _ c d h _ => ?_) fun _ _ c d h => hthreshold c d h
  rw [h.name]
  exact Finding.whenAbove_less (hthreshold c d h)

theorem valueRules_againstValue : ∀ r ∈ valueRules, r.AgainstValue := by
  have hnone {α : Type} {large : Option α} : Kept none large := nofun
  simp only [valueRules, List.forall_mem_cons, List.not_mem_nil, false_implies, implies_true,
    and_true]
  refine ⟨?privileged, ?root, ?escalation, ?network, ?pid, ?ipc, ?memory, ?cpu, ?image, ?pull,
    ?token, ?processes, ?grace, ?hostPath, ?size, ?startup, ?liveness, ?readiness, ?injection⟩
  case privileged =>
    exact againstValue_pod (fun _ _ h _ => Finding.when_less
      (forall₂_any h.spec.containers fun _ _ hthins => isPrivileged_kept hthins)) fun _ _ _ => hnone
  case root =>
    refine againstValue_container (fun _ _ _ c d h _ => ?_) fun _ _ _ _ _ => hnone
    rw [h.name]
    exact Finding.when_less (h.securityContext.any fun _ _ hthins => hthins.runAsUser.beq_some)
  case escalation =>
    refine againstValue_container (fun _ _ _ c d h _ => ?_) fun _ _ _ _ _ => hnone
    rw [h.name]
    exact Finding.when_less
      (h.securityContext.any fun _ _ hthins => hthins.allowPrivilegeEscalation.beq_some)
  case network =>
    exact againstValue_pod (fun _ _ h _ => Finding.when_less h.spec.hostNetwork.beq_some)
      fun _ _ _ => hnone
  case pid =>
    exact againstValue_pod (fun _ _ h _ => Finding.when_less h.spec.hostPid.beq_some)
      fun _ _ _ => hnone
  case ipc =>
    exact againstValue_pod (fun _ _ h _ => Finding.when_less h.spec.hostIpc.beq_some)
      fun _ _ _ => hnone
  case memory =>
    refine againstValue_container (fun _ _ _ c d h hnames => ?_) fun _ _ _ _ _ => hnone
    rw [h.name]
    have hkept : Kept (c.limits.get? "memory") (d.limits.get? "memory") :=
      Labels.get?_kept h.limits hnames
    cases hlimit : c.limits.get? "memory" with
    | none => exact .inl rfl
    | some memory => exact .inr (by rw [hkept.eq_some hlimit])
  case cpu =>
    refine againstValue_container (fun _ _ _ c d h hnames => ?_) fun _ _ _ _ _ => hnone
    rw [h.name]
    have hkept : Kept (c.limits.get? "cpu") (d.limits.get? "cpu") :=
      Labels.get?_kept h.limits hnames
    cases hlimit : c.limits.get? "cpu" with
    | none => exact .inl rfl
    | some cpu => exact .inr (by rw [hkept.eq_some hlimit])
  case image =>
    refine againstValue_container (fun _ _ _ c d h _ => ?_) fun _ _ _ _ _ => hnone
    rw [h.name]
    exact Finding.when_less (h.image.any fun _ _ heq => heq ▸ id)
  case pull =>
    refine againstValue_container (fun thin whole hthins c d h _ => ?_) fun _ _ _ _ _ => hnone
    rw [h.name]
    refine Finding.when_less fun hthin => ?_
    obtain ⟨hproduction, hpolicy⟩ := Bool.and_eq_true_iff.mp hthin
    exact Bool.and_eq_true_iff.mpr
      ⟨inProduction_kept hthins hproduction, h.imagePullPolicy.beq_some hpolicy⟩
  case token =>
    exact againstValue_pod
      (fun _ _ h _ => Finding.when_less h.spec.automountServiceAccountToken.beq_some)
      fun _ _ _ => hnone
  case processes =>
    exact againstValue_pod (fun _ _ h _ => Finding.when_less h.spec.shareProcessNamespace.beq_some)
      fun _ _ _ => hnone
  case grace =>
    exact againstValue_pod
      (fun _ _ h _ => Finding.whenAbove_less h.spec.terminationGracePeriodSeconds)
      fun _ _ h => h.spec.terminationGracePeriodSeconds
  case hostPath =>
    refine againstValue_volume fun _ _ v w h => ?_
    rw [h.name]
    exact Finding.when_less h.hostPath.isSome
  case size =>
    refine againstValue_volume fun _ _ v w h => ?_
    rw [h.name]
    have hkept : Kept (v.emptyDir.bind (·.sizeLimit)) (w.emptyDir.bind (·.sizeLimit)) :=
      h.emptyDir.bind fun _ _ hthins => hthins.sizeLimit
    cases hsize : v.emptyDir.bind (·.sizeLimit) with
    | none => exact .inl rfl
    | some size => exact .inr (by rw [hkept.eq_some hsize])
  case startup => exact probeThreshold_againstValue fun _ _ h => h.startupProbe
  case liveness => exact probeThreshold_againstValue fun _ _ h => h.livenessProbe
  case readiness => exact probeThreshold_againstValue fun _ _ h => h.readinessProbe
  case injection =>
    refine againstValue_pod (fun thin whole h hnames => ?_) fun _ _ _ => hnone
    refine Finding.when_less fun hthin => ?_
    obtain ⟨hproduction, hinject⟩ := Bool.and_eq_true_iff.mp hthin
    have hannotation : Kept (thin.metadata.annotations.get? injectAnnotation)
        (whole.metadata.annotations.get? injectAnnotation) :=
      Labels.get?_kept h.metadata.annotations hnames
    exact Bool.and_eq_true_iff.mpr
      ⟨inProduction_kept h hproduction, hannotation.any (fun _ _ heq => heq ▸ id) hinject⟩

theorem droppedCapabilities_kept {c d : Container} (h : c.Thins d)
    (hc : (droppedCapabilities c).contains "ALL" = true) :
    (droppedCapabilities d).contains "ALL" = true := by
  have hcapabilities := h.securityContext.bind fun _ _ hthins => hthins.capabilities
  have hdrop := hcapabilities.bind fun _ _ hthins => hthins.drop
  unfold droppedCapabilities at hc ⊢
  cases hdropped : (c.securityContext.bind (·.capabilities)).bind (·.drop) with
  | none => simp [hdropped] at hc
  | some dropped =>
    rw [hdropped] at hc
    rwa [Kept.eq_some hdrop hdropped]

theorem seccompType_kept {thin whole : Pod} (h : thin.Thins whole) :
    Kept (seccompType? thin) (seccompType? whole) :=
  (h.spec.securityContext.bind fun _ _ hthins => hthins.seccompProfile).bind
    fun _ _ hthins => hthins.type

theorem labelRule_againstAbsence (label : String) : (labelRule label).AgainstAbsence :=
  againstAbsence_pod fun _ _ h => Finding.when_not_less (Labels.has_of_sublist h.metadata.labels)

theorem annotationRule_againstAbsence {id annotationName category : String} :
    (annotationRule id annotationName category).AgainstAbsence :=
  againstAbsence_pod fun _ _ h =>
    Finding.when_not_less (Labels.has_of_sublist h.metadata.annotations)

section
variable {id category description : String} {severity : Severity} {message : Container → String}

theorem missing_againstAbsence {α : Type} {part : Container → Option α} {thins : α → α → Prop}
    (hpart : ∀ c d : Container, c.Thins d → Thinned thins (part c) (part d))
    (hmessage : ∀ c d : Container, c.name = d.name → message c = message d := by
      intro _ _ hname; simp only [hname]) :
    (Rule.mk id .container severity category description
      (fun _ c => .when (part c).isNone (message c)) fun _ _ => none).AgainstAbsence :=
  againstAbsence_container fun _ _ c d h => by
    rw [hmessage c d h.name]
    exact Finding.when_less (hpart c d h).isNone

theorem unset_againstAbsence {flag : SecurityContext → Option Bool}
    (hflag : ∀ thin whole : SecurityContext, thin.Thins whole → Kept (flag thin) (flag whole))
    (hmessage : ∀ c d : Container, c.name = d.name → message c = message d := by
      intro _ _ hname; simp only [hname]) :
    (Rule.mk id .container severity category description
      (fun _ c => .when (!c.securityContext.any fun context => flag context == some true)
        (message c)) fun _ _ => none).AgainstAbsence :=
  againstAbsence_container fun _ _ c d h => by
    rw [hmessage c d h.name]
    exact Finding.when_not_less
      (h.securityContext.any fun _ _ hthins => (hflag _ _ hthins).beq_some)

end

theorem absenceRules_againstAbsence : ∀ r ∈ absenceRules, r.AgainstAbsence := by
  simp only [absenceRules, List.forall_mem_cons, List.not_mem_nil, false_implies, implies_true,
    and_true]
  refine ⟨?nonRoot, ?readOnly, ?capabilities, ?seccomp, ?limits, ?requests, ?liveness, ?readiness,
    ?context, ?podContext, ?pull, ?app, ?compliance, ?environment, ?grace, ?mounts, ?ports, ?env,
    ?lifecycle, ?preStop, ?psp, ?scrape⟩
  case nonRoot => exact unset_againstAbsence fun _ _ h => h.runAsNonRoot
  case readOnly => exact unset_againstAbsence fun _ _ h => h.readOnlyRootFilesystem
  case capabilities =>
    refine againstAbsence_container fun _ _ c d h => ?_
    rw [h.name]
    exact Finding.when_not_less (droppedCapabilities_kept h)
  case seccomp =>
    exact againstAbsence_pod fun _ _ h =>
      Finding.when_not_less ((seccompType_kept h).any fun _ _ heq => heq ▸ id)
  case limits =>
    exact missing_againstAbsence fun _ _ h => h.resources.bind fun _ _ hthins => hthins.limits
  case requests =>
    exact missing_againstAbsence fun _ _ h => h.resources.bind fun _ _ hthins => hthins.requests
  case liveness => exact missing_againstAbsence fun _ _ h => h.livenessProbe
  case readiness => exact missing_againstAbsence fun _ _ h => h.readinessProbe
  case context => exact missing_againstAbsence fun _ _ h => h.securityContext
  case podContext =>
    exact againstAbsence_pod fun _ _ h => Finding.when_less h.spec.securityContext.isNone
  case pull => exact missing_againstAbsence fun _ _ h => h.imagePullPolicy
  case app => exact labelRule_againstAbsence "app"
  case compliance => exact labelRule_againstAbsence "compliance"
  case environment => exact labelRule_againstAbsence "environment"
  case grace =>
    exact againstAbsence_pod fun _ _ h =>
      Finding.when_less h.spec.terminationGracePeriodSeconds.isNone
  case mounts => exact missing_againstAbsence fun _ _ h => h.volumeMounts
  case ports => exact missing_againstAbsence fun _ _ h => h.ports
  case env => exact missing_againstAbsence fun _ _ h => h.env
  case lifecycle => exact missing_againstAbsence fun _ _ h => h.lifecycle
  case preStop =>
    exact missing_againstAbsence fun _ _ h => h.lifecycle.bind fun _ _ hthins => hthins.preStop
  case psp => exact annotationRule_againstAbsence
  case scrape => exact annotationRule_againstAbsence

end

-- -----------------------------------------------------------------------------
-- Documents
-- -----------------------------------------------------------------------------

section
variable {v : Value} {thin whole : Document} {e : Engine}

theorem metadata_namesOnce {form : Declared.metadata.Form} (h : Declared.metadata.Normal form) :
    (Metadata.ofForm form).annotations.NamesOnce := by
  obtain ⟨⟨-, -, -, hannotations, -⟩, -⟩ := h
  change Labels.NamesOnce (form.1.2.2.2.1.getD [])
  cases hslot : form.1.2.2.2.1 with
  | none => exact List.nodup_nil
  | some annotations => exact (hannotations annotations hslot).1

theorem container_namesOnce {form : Declared.container.Form}
    (h : Declared.container.Normal form) : (Container.ofForm form).limits.NamesOnce := by
  obtain ⟨⟨-, -, -, -, hresources, -⟩, -⟩ := h
  unfold Container.limits
  cases hlimits : (Container.ofForm form).resources.bind (·.limits) with
  | none => exact List.nodup_nil
  | some limits =>
    obtain ⟨_, hsome, hlimits⟩ := Option.bind_eq_some_iff.mp hlimits
    obtain ⟨resources, hslot, rfl⟩ := Option.map_eq_some_iff.mp hsome
    obtain ⟨⟨hnormal, -⟩, -⟩ := hresources resources (Option.join_eq_some_iff.mp hslot)
    exact (hnormal limits (Option.join_eq_some_iff.mp hlimits)).1

theorem podSpec_namesOnce {form : Declared.podSpec.Form} (h : Declared.podSpec.Normal form) :
    ∀ c ∈ (PodSpec.ofForm form).containers, c.limits.NamesOnce := by
  obtain ⟨⟨-, -, -, -, -, -, -, -, hcontainers, -⟩, -⟩ := h
  intro c hc
  obtain ⟨container, hform, rfl⟩ := List.mem_map.mp hc
  cases hslot : form.1.2.2.2.2.2.2.2.2.1 with
  | none => simp [hslot] at hform
  | some containers =>
    rw [hslot] at hform
    exact container_namesOnce (hcontainers containers hslot container hform)

theorem pod_namesOnce {form : Declared.pod.Form} (h : Declared.pod.Normal form) :
    (Pod.ofForm form).NamesOnce := by
  obtain ⟨⟨-, -, hmetadata, hspec, -⟩, -⟩ := h
  constructor
  case annotations =>
    simp only [Pod.ofForm]
    cases hslot : form.1.2.2.1 with
    | none => exact List.nodup_nil
    | some metadata => exact metadata_namesOnce (hmetadata metadata hslot)
  case limits =>
    simp only [Pod.ofForm]
    cases hslot : form.1.2.2.2.1 with
    | none => simp
    | some spec => exact podSpec_namesOnce (hspec spec hslot)

theorem readDocument_namesOnce (h : readDocument v = .ok whole) : whole.pod.NamesOnce := by
  obtain ⟨_, -, hmatch⟩ := bind_ok.mp h
  exact pod_namesOnce (Declared.pod.check_normal v whole.form (matchDeclared_ok.mp hmatch))

theorem assess_built {found : List Violation} :
    e.assess (.built whole) = .ok found ↔ e.verdict whole.pod = .ok found :=
  mapError_ok

/-- Rules against values and rules against absence go opposite ways. What rules
against values find in a document with less in it, they find in the whole one,
if that gets a verdict. What rules against absence find in the whole one, they
find where there is less; their verdict never fails. -/
theorem assess_thinned (hread : readDocument v = .ok whole) (hthins : thin.pod.Thins whole.pod) :
    ((∀ r ∈ e.activeRules, r ∈ valueRules) → ∀ found, e.assess (.built whole) = .ok found →
      ∃ part, e.assess (.built thin) = .ok part ∧ part.Sublist found) ∧
    ((∀ r ∈ e.activeRules, r ∈ absenceRules) → ∃ part found,
      e.assess (.built whole) = .ok part ∧ e.assess (.built thin) = .ok found ∧
        part.Sublist found) := by
  simp only [assess_built]
  refine ⟨fun hrules found hfound => ?value, fun hrules => ?absence⟩
  case value =>
    exact Engine.verdict_less (fun r hr => valueRules_againstValue r (hrules r hr) _ _ hthins
      (readDocument_namesOnce hread)) hfound
  case absence =>
    have hagainst r (hr : r ∈ e.activeRules) := absenceRules_againstAbsence r (hrules r hr)
    have htell : e.canTell thin.pod = true := by
      simp only [Engine.canTell, List.all_eq_true]
      exact fun r hr => Rule.canTellAll_of_figure (hagainst r hr).figure
    have hthin : e.verdict thin.pod = .ok (e.judge thin.pod) := by
      rw [Engine.verdict, if_pos htell]
    obtain ⟨part, hpart, hsublist⟩ :=
      Engine.verdict_less (fun r hr => (hagainst r hr).findsLess _ _ hthins) hthin
    exact ⟨part, _, hpart, hthin, hsublist⟩

end

def fullPod : Value :=
  .record [
    ("kind", .text "Pod"),
    ("metadata", .record [
      ("namespace", .text "production"),
      ("labels", .record [("app", .text "shop")])]),
    ("spec", .record [
      ("hostNetwork", .bool true),
      ("containers", .list [.record [
        ("name", .text "main"),
        ("imagePullPolicy", .text "Always"),
        ("securityContext", .record [("privileged", .bool true), ("runAsNonRoot", .bool true)]),
        ("resources", .record [("limits", .record [
          ("cpu", .text "lots"), ("memory", .text "3Gi")])])]])])]

/-- The same pod without its metadata, its security context and a limit. -/
def scantPod : Value :=
  .record [
    ("kind", .text "Pod"),
    ("spec", .record [
      ("hostNetwork", .bool true),
      ("containers", .list [.record [
        ("name", .text "main"),
        ("imagePullPolicy", .text "Always"),
        ("resources", .record [("limits", .record [("cpu", .text "lots")])])]])])]

def fullDocument : Document :=
  ⟨(("Pod", none, some ((none, some (some "production"), some [("app", "shop")], none, ()), []),
    some ((some (some true), none, none, none, none, none, none, none,
      some [(("main", none, some (some "Always"),
        some (some
          ((some (some true), none, none, some (some true), none, none, none, none, ()), [])),
        some (some ((some (some [("cpu", "lots"), ("memory", "3Gi")]), none, ()), [])),
        none, none, none, none, none, none, none, ()), [])], ()), []), ()), [])⟩

def scantDocument : Document :=
  ⟨(("Pod", none, none,
    some ((some (some true), none, none, none, none, none, none, none,
      some [(("main", none, some (some "Always"), none,
        some (some ((some (some [("cpu", "lots")]), none, ()), [])),
        none, none, none, none, none, none, none, ()), [])], ()), []), ()), [])⟩

theorem scantDocument_thins : scantDocument.pod.Thins fullDocument.pod := by
  have hlimits : [("cpu", "lots")].Sublist [("cpu", "lots"), ("memory", "3Gi")] := by decide
  have hresources : Thinned ResourceRequirements.Thins (some ⟨some [("cpu", "lots")], none⟩)
      (some ⟨some [("cpu", "lots"), ("memory", "3Gi")], none⟩) := by
    rintro _ ⟨⟩
    refine ⟨_, rfl, ?_, .none⟩
    rintro _ ⟨⟩
    exact ⟨_, rfl, hlimits⟩
  have hnetwork : Kept (some true) (some true) := .refl
  have hpolicy : Kept (some "Always") (some "Always") := .refl
  refine ⟨rfl, .none, ⟨.none, .none, List.nil_sublist _, List.nil_sublist _⟩, ?_⟩
  refine ⟨hnetwork, .none, .none, .none, .none, .none, .none, .nil, .cons ?_ .nil⟩
  exact ⟨rfl, .none, hpolicy, .none, hresources, .none, .none, .none, .none, .none, .none, .none⟩

theorem assess_scantPod :
    readDocument fullPod = .ok fullDocument ∧ readDocument scantPod = .ok scantDocument ∧
    scantDocument.pod.Thins fullDocument.pod ∧
    ∃ part found, (Engine.make valueRules [] 1).assess (.built scantDocument) = .ok part ∧
      (Engine.make valueRules [] 1).assess (.built fullDocument) = .ok found ∧
      part.Sublist found ∧
      part.map (·.ruleId) = ["host-network", "cpu-limit-ceiling"] ∧
      found.map (·.ruleId) = ["privileged-containers", "host-network", "memory-limit-ceiling",
        "cpu-limit-ceiling", "production-pull-policy"] := by
  refine ⟨rfl, rfl, scantDocument_thins, ?_⟩
  have hvalues : ∀ r ∈ (Engine.make valueRules [] 1).activeRules, r ∈ valueRules :=
    fun r hr => (List.mem_filter.mp hr).1
  obtain ⟨part, hpart, hsublist⟩ :=
    (assess_thinned (v := fullPod) rfl scantDocument_thins).1 hvalues _ rfl
  refine ⟨part, _, hpart, rfl, hsublist, ?_, rfl⟩
  cases hpart
  rfl

end PodPolicy
