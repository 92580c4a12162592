import PodPolicy.Proofs.FieldLaws
import PodPolicy.Proofs.Tellable

/-!
# Pods whose numbers can be told

A check against a schema makes no integer longer than what it was given.
`readPod_tellable`: in a pod that is read from a value whose integers can be
told, all integers can.
-/

namespace PodPolicy

open Numeral

-- -----------------------------------------------------------------------------
-- Forms
-- -----------------------------------------------------------------------------

mutual
/-- Every integer in the declared parts of a value can be told. -/
def Schema.Tellable : (s : Schema) → s.Form → Prop
  | .int, n => isTellable n = true
  | .any, v => v.isTellable = true
  | .list item, items => ∀ a ∈ items, item.Tellable a
  | .dict item, entries => ∀ entry ∈ entries, item.Tellable entry.2
  | .record _ fields, form => fields.Tellable form.1
  | .bool, _ => True
  | .text, _ => True
  | .quantity, _ => True
  | .label, _ => True
def Fields.Tellable : (fs : Fields) → fs.Form → Prop
  | .nil, _ => True
  | .cons field schema rest, form =>
    field.presence.SlotAll schema.Tellable form.1 ∧ rest.Tellable form.2
end

theorem Schema.isTellable_empty (s : Schema) : s.empty.isTellable = true := by
  cases s <;> rfl

mutual
theorem Schema.check_tellable : (s : Schema) → ∀ (v : Value) (form : s.Form),
    v.isTellable = true → s.check v = .ok form → s.Tellable form
  | .int, v, n, hv, h => by
    refine Scalar.readInt_tellable ?_ (Checked.ofExcept_ok.mp h)
    rintro m rfl
    exact hv
  | .any, v, form, hv, h => by
    cases h
    exact hv
  | .list item, v, items, hv, h => by
    intro a ha
    simp only [Schema.check] at h
    split at h
    case h_4 => cases h
    all_goals
      obtain ⟨w, hw, hcheck⟩ := Checked.itemsFrom_mem h ha
      rw [Value.isTellable] at hv
      exact item.check_tellable w a (Value.areTellable_iff.mp hv w hw) hcheck
  | .dict item, v, entries, hv, h => by
    intro entry hentry
    simp only [Schema.check] at h
    split at h
    · obtain ⟨made, hmade, rfl⟩ := map_ok.mp h
      obtain ⟨given, hgiven, hcheck⟩ := checkEntries_mem hmade (named_mem hentry)
      have htellable := Value.isTellable_mapping.mp hv given hgiven
      exact item.check_tellable given.2 entry.2 htellable.2 hcheck
    · cases h
  | .record _ fields, v, form, hv, h => by
    simp only [Schema.check] at h
    split at h
    · obtain ⟨hfields, -⟩ := Checked.both_ok.mp h
      exact fields.check_tellable _ form.1 (Value.isTellable_mapping.mp hv) hfields
    · cases h
  | .bool, _, _, _, _ => trivial
  | .text, _, _, _, _ => trivial
  | .quantity, _, _, _, _ => trivial
  | .label, _, _, _, _ => trivial
theorem Fields.check_tellable : (fs : Fields) → ∀ (entries : Entries) (form : fs.Form),
    entries.Tellable → fs.check entries = .ok form → fs.Tellable form
  | .nil, _, _, _, _ => trivial
  | .cons field schema rest, entries, form, hentries, h => by
    obtain ⟨hfield, hrest⟩ := Fields.check_cons.mp h
    exact ⟨Field.check_all schema.check_tellable schema.isTellable_empty
        (fun _ _ hfound => hentries.get? hfound) hfield,
      rest.check_tellable entries form.2 hentries hrest⟩
end

-- -----------------------------------------------------------------------------
-- Pods
-- -----------------------------------------------------------------------------

def SecurityContext.integers (context : SecurityContext) : List Int :=
  context.runAsUser.toList ++ context.runAsGroup.toList

def PodSecurityContext.integers (context : PodSecurityContext) : List Int :=
  context.runAsUser.toList ++ context.runAsGroup.toList ++ context.fsGroup.toList

def ContainerPort.integers (port : ContainerPort) : List Int :=
  port.containerPort.toList ++ port.hostPort.toList

def Probe.integers (probe : Probe) : List Int :=
  probe.failureThreshold.toList ++ probe.successThreshold.toList ++ probe.periodSeconds.toList ++
    probe.initialDelaySeconds.toList

def Container.integers (c : Container) : List Int :=
  c.securityContext.toList.flatMap SecurityContext.integers ++
    c.portList.flatMap ContainerPort.integers ++
    [c.livenessProbe, c.readinessProbe, c.startupProbe].flatMap fun probe =>
      probe.toList.flatMap Probe.integers

def PodSpec.integers (spec : PodSpec) : List Int :=
  spec.terminationGracePeriodSeconds.toList ++
    spec.securityContext.toList.flatMap PodSecurityContext.integers ++
    spec.containers.flatMap Container.integers

section
variable {n : Int}

theorem securityContext_tellable {form : Declared.securityContext.Form}
    (h : Declared.securityContext.Tellable form)
    (hn : n ∈ (SecurityContext.ofForm form).integers) : isTellable n = true := by
  obtain ⟨-, huser, hgroup, -⟩ := h
  simp only [SecurityContext.integers, SecurityContext.ofForm, List.mem_append,
    Option.mem_toList, Option.join_eq_some_iff] at hn
  rcases hn with hn | hn
  · exact huser n hn
  · exact hgroup n hn

theorem podSecurityContext_tellable {form : Declared.podSecurityContext.Form}
    (h : Declared.podSecurityContext.Tellable form)
    (hn : n ∈ (PodSecurityContext.ofForm form).integers) : isTellable n = true := by
  obtain ⟨huser, hgroup, -, hfsGroup, -⟩ := h
  simp only [PodSecurityContext.integers, PodSecurityContext.ofForm, List.mem_append,
    Option.mem_toList, Option.join_eq_some_iff] at hn
  rcases hn with (hn | hn) | hn
  · exact huser n hn
  · exact hgroup n hn
  · exact hfsGroup n hn

theorem containerPort_tellable {form : Declared.containerPort.Form}
    (h : Declared.containerPort.Tellable form)
    (hn : n ∈ (ContainerPort.ofForm form).integers) : isTellable n = true := by
  obtain ⟨-, hport, hhostPort, -⟩ := h
  simp only [ContainerPort.integers, ContainerPort.ofForm, List.mem_append,
    Option.mem_toList, Option.join_eq_some_iff] at hn
  rcases hn with hn | hn
  · exact hport n hn
  · exact hhostPort n hn

theorem probe_tellable {form : Declared.probe.Form} (h : Declared.probe.Tellable form)
    (hn : n ∈ (Probe.ofForm form).integers) : isTellable n = true := by
  obtain ⟨hfailure, hsuccess, hperiod, hdelay, -⟩ := h
  simp only [Probe.integers, Probe.ofForm, List.mem_append, Option.mem_toList,
    Option.join_eq_some_iff] at hn
  rcases hn with ((hn | hn) | hn) | hn
  · exact hfailure n hn
  · exact hsuccess n hn
  · exact hperiod n hn
  · exact hdelay n hn

theorem container_tellable {form : Declared.container.Form} (h : Declared.container.Tellable form)
    (hn : n ∈ (Container.ofForm form).integers) : isTellable n = true := by
  obtain ⟨-, -, -, hcontext, -, hports, -, hliveness, hreadiness, hstartup, -⟩ := h
  simp only [Container.integers, Container.ofForm, Container.portList, List.mem_append,
    List.mem_flatMap, Option.mem_toList, Option.map_eq_some_iff, Option.join_eq_some_iff,
    List.mem_cons, List.not_mem_nil, or_false] at hn
  have hprobe {slot : Option (Option Declared.probe.Form)} {probe : Probe}
      (hslot : ∀ form, slot = some (some form) → Declared.probe.Tellable form)
      (hread : slot.join.map Probe.ofForm = some probe) (hn : n ∈ probe.integers) :
      isTellable n = true := by
    obtain ⟨form, hform, rfl⟩ := Option.map_eq_some_iff.mp hread
    exact probe_tellable (hslot form (Option.join_eq_some_iff.mp hform)) hn
  rcases hn with (⟨_, ⟨context, hsome, rfl⟩, hn⟩ | ⟨port, hport, hn⟩) |
    ⟨_, rfl | rfl | rfl, probe, hread, hn⟩
  · exact securityContext_tellable (hcontext context hsome) hn
  · cases hjoin : Option.join form.1.2.2.2.2.2.1 with
    | none => simp [hjoin] at hport
    | some ports =>
      simp only [hjoin, Option.map_some, Option.getD_some, List.mem_map] at hport
      obtain ⟨portForm, hmem, rfl⟩ := hport
      exact containerPort_tellable
        (hports ports (Option.join_eq_some_iff.mp hjoin) portForm hmem) hn
  · exact hprobe hliveness hread hn
  · exact hprobe hreadiness hread hn
  · exact hprobe hstartup hread hn

theorem podSpec_tellable {form : Declared.podSpec.Form} (h : Declared.podSpec.Tellable form)
    (hn : n ∈ (PodSpec.ofForm form).integers) : isTellable n = true := by
  obtain ⟨-, -, -, -, -, hgrace, hcontext, -, hcontainers, -⟩ := h
  simp only [PodSpec.integers, PodSpec.ofForm, List.mem_append, List.mem_flatMap,
    Option.mem_toList, Option.map_eq_some_iff, Option.join_eq_some_iff, List.mem_map] at hn
  rcases hn with (hn | ⟨_, ⟨context, hsome, rfl⟩, hn⟩) | ⟨_, ⟨c, hc, rfl⟩, hn⟩
  · exact hgrace n hn
  · exact podSecurityContext_tellable (hcontext context hsome) hn
  · cases hslot : form.1.2.2.2.2.2.2.2.2.1 with
    | none => simp [hslot] at hc
    | some containers =>
      rw [hslot] at hc
      exact container_tellable (hcontainers containers hslot c hc) hn

theorem pod_tellable {form : Declared.pod.Form} (h : Declared.pod.Tellable form)
    (hn : n ∈ (Pod.ofForm form).spec.integers) : isTellable n = true := by
  obtain ⟨-, -, -, hspec, -⟩ := h
  simp only [Pod.ofForm] at hn
  cases hslot : form.1.2.2.2.1 with
  | none => simp [hslot, PodSpec.integers] at hn
  | some spec =>
    simp only [hslot, Option.map_some, Option.getD_some] at hn
    exact podSpec_tellable (hspec spec hslot) hn

end

end PodPolicy
