import PodPolicy.Proofs.Evaluation
import PodPolicy.Proofs.PodShape
import PodPolicy.Proofs.TellablePod

/-!
# How an evaluation ends

`evaluate_outcome`: where every integer of a manifest can be told and rules tell
no other long ones, the manifest is refused for its shape or gets a verdict.
-/

namespace PodPolicy

open Numeral Workload

/-- A rule that tells no number but those of the pod and short ones. -/
def Rule.TellsOwn (r : Rule) : Prop :=
  ∀ pod, ∀ subject ∈ r.scope.subjects pod, ∀ n, r.figure pod subject = some n →
    n ∈ pod.spec.integers ∨ isTellable n = true

def Engine.Rejects (e : Engine) (manifest : Value) : Prop :=
  ∃ s, e.evaluate manifest = .error (.shape s)

variable {manifest v : Value} {entries spec : Entries} {pod : Pod} {place : TemplatePlace}

-- -----------------------------------------------------------------------------
-- The pod of a manifest
-- -----------------------------------------------------------------------------

theorem asMapping_tellable {path : String} (hv : v.isTellable = true)
    (h : asMapping path v = .ok entries) : entries.Tellable := by
  unfold asMapping at h
  split at h
  · cases h
    exact .nil
  · cases h
    exact Value.isTellable_mapping.mp hv
  · cases h

theorem templateIn_tellable (hspec : spec.Tellable) (h : templateIn spec place = .ok v) :
    v.isTellable = true := by
  cases place with
  | direct =>
    cases h
    exact hspec.get
  | ofJob =>
    simp only [templateIn, bind_ok, pure_ok] at h
    obtain ⟨job, hjob, jobSpec, hjobSpec, rfl⟩ := h
    exact (asMapping_tellable (asMapping_tellable hspec.get hjob).get hjobSpec).get

theorem orElse_tellable {w : Value} (hv : v.isTellable = true) (hw : w.isTellable = true) :
    (v.orElse w).isTellable = true := by
  unfold Value.orElse
  split
  · exact hw
  · exact hv

theorem lift_tellable {owner template templateMetadata : Entries} (howner : owner.Tellable)
    (htemplate : template.Tellable) (hmetadata : templateMetadata.Tellable) :
    (lift owner template templateMetadata).isTellable = true := by
  have hempty : (Value.mapping []).isTellable = true := rfl
  simp only [lift, Value.record, List.map_cons, List.map_nil, Value.isTellable,
    Value.entriesAreTellable, howner.get, orElse_tellable howner.get hmetadata.get,
    orElse_tellable hmetadata.get hempty, orElse_tellable htemplate.get hempty, Bool.and_self]

theorem podOfOther_tellable {kind : String} (hentries : entries.Tellable)
    (h : podOfOther kind entries = .ok v) : v.isTellable = true := by
  obtain ⟨spec, hspec, ⟨place, -, h⟩ | ⟨-, -, rfl⟩⟩ := podOfOther_ok.mp h
  · obtain ⟨template, owner, templateMetadata, htemplate, howner, hmetadata, rfl⟩ :=
      podOfTemplate_ok.mp h
    have htellable := Value.isTellable_mapping.mp
      (templateIn_tellable (asMapping_tellable hentries.get hspec) htemplate)
    exact lift_tellable (asMapping_tellable hentries.get howner) htellable
      (asMapping_tellable htellable.get hmetadata)
  · exact Value.isTellable_mapping.mpr hentries

theorem extractPod_tellable (hmanifest : manifest.isTellable = true)
    (h : extractPod manifest = .ok (some v)) : v.isTellable = true := by
  cases manifest with
  | mapping entries =>
    obtain ⟨kind, -, ⟨-, rfl⟩ | ⟨-, -, hother⟩⟩ := extractPod_some.mp h
    · exact hmanifest
    · exact podOfOther_tellable (Value.isTellable_mapping.mp hmanifest) hother
  | _ => cases h

theorem readPod_tellable (hmanifest : manifest.isTellable = true)
    (h : readPod manifest = .ok (some pod)) : ∀ n ∈ pod.spec.integers, isTellable n = true := by
  obtain ⟨view, document, hview, hdocument, rfl⟩ := readPod_some.mp h
  obtain ⟨_, -, hmatch⟩ := bind_ok.mp hdocument
  have hform := matchDeclared_ok.mp hmatch
  have htellable := Schema.check_tellable _ _ _ (extractPod_tellable hmanifest hview) hform
  exact fun n hn => pod_tellable htellable hn

-- -----------------------------------------------------------------------------
-- Verdicts
-- -----------------------------------------------------------------------------

theorem Rule.TellsOwn.canTellAll {r : Rule} (h : r.TellsOwn)
    (hpod : ∀ n ∈ pod.spec.integers, isTellable n = true) : r.canTellAll pod = true := by
  simp only [Rule.canTellAll, List.all_eq_true]
  intro subject hsubject
  unfold Rule.canTell
  split
  · simp only [Option.all_eq_true]
    exact fun n hn => (h pod subject hsubject n hn).elim (hpod n) fun hshort => hshort
  · rfl

theorem evaluate_outcome {e : Engine} (hrules : ∀ r ∈ e.rules, r.TellsOwn)
    (hmanifest : manifest.isTellable = true) :
    e.Rejects manifest ∨ ∃ violations, e.evaluate manifest = .ok violations := by
  cases hread : readPod manifest with
  | error s => exact .inl ⟨s, evaluate_error hread⟩
  | ok found =>
    right
    cases found with
    | none => exact ⟨[], evaluate_none hread⟩
    | some pod =>
      have htell : e.canTell pod = true := by
        simp only [Engine.canTell, List.all_eq_true]
        intro r hr
        exact (hrules r (List.mem_filter.mp hr).1).canTellAll (readPod_tellable hmanifest hread)
      exact ⟨e.judge pod, by rw [evaluate_some hread, Engine.verdict, if_pos htell]; rfl⟩

theorem Engine.rejects_iff {e : Engine} :
    e.Rejects manifest ↔ ∃ s, readPod manifest = .error s := by
  constructor
  · rintro ⟨s, h⟩
    cases hread : readPod manifest with
    | error s => exact ⟨s, rfl⟩
    | ok found =>
      cases found with
      | none =>
        rw [evaluate_none hread] at h
        cases h
      | some pod =>
        rw [evaluate_some hread] at h
        obtain ⟨_, -, h⟩ := mapError_error.mp h
        cases h
  · rintro ⟨s, h⟩
    exact ⟨s, evaluate_error h⟩

/-- Manifests that lead to the same pod, if to any, are judged alike. -/
theorem evaluate_same {e : Engine} {m m' : Value}
    (h : ∀ found, readPod m = .ok found ↔ readPod m' = .ok found) :
    (e.Rejects m ↔ e.Rejects m') ∧
      ∀ violations, e.evaluate m = .ok violations ↔ e.evaluate m' = .ok violations := by
  cases hread : readPod m with
  | error s =>
    cases hread' : readPod m' with
    | error s' =>
      simp [Engine.rejects_iff, hread, hread', evaluate_error hread, evaluate_error hread']
    | ok found =>
      have hfound := (h found).mpr hread'
      cases hread.symm.trans hfound
  | ok found =>
    have hfound := (h found).mp hread
    have heq : e.evaluate m = e.evaluate m' := by
      cases found with
      | none => rw [evaluate_none hread, evaluate_none hfound]
      | some pod => rw [evaluate_some hread, evaluate_some hfound]
    simp only [Engine.Rejects, heq, implies_true, and_self]

theorem container_integers {c : Container} {n : Int} (hc : c ∈ pod.spec.containers)
    (hn : n ∈ c.integers) : n ∈ pod.spec.integers := by
  simp only [PodSpec.integers, List.mem_append, List.mem_flatMap]
  exact .inr ⟨c, hc, hn⟩

theorem terminationGracePeriodCeiling_tellsOwn :
    Catalog.terminationGracePeriodCeiling.TellsOwn := by
  intro pod _ _ n hn
  have hgrace : pod.spec.terminationGracePeriodSeconds = some n := hn
  exact .inl (by simp [PodSpec.integers, hgrace])

theorem unnamedUdpPort_tellsOwn : Catalog.unnamedUdpPort.TellsOwn := by
  rintro pod ⟨c, port⟩ hsubject n hn
  have hport : port.containerPort = some n := hn
  obtain ⟨c', hc, hmap⟩ := List.mem_flatMap.mp hsubject
  obtain ⟨port', hmem, heq⟩ := List.mem_map.mp hmap
  cases heq
  refine .inl (container_integers hc ?_)
  simp only [Container.integers, List.mem_append, List.mem_flatMap]
  exact .inl (.inr ⟨port, hmem, by simp [ContainerPort.integers, hport]⟩)

theorem probeThreshold_tellsOwn {id name : String} {probe : Container → Option Probe}
    {ceiling : Int} (h : ∀ c, probe c ∈ [c.livenessProbe, c.readinessProbe, c.startupProbe]) :
    (Catalog.probeThreshold id name probe ceiling).TellsOwn := by
  intro pod c hc n hn
  obtain ⟨p, hp, hthreshold⟩ := Option.bind_eq_some_iff.mp hn
  refine .inl (container_integers hc ?_)
  simp only [Container.integers, List.mem_append, List.mem_flatMap]
  exact .inr ⟨probe c, h c, p, Option.mem_toList.mpr hp, by simp [Probe.integers, hthreshold]⟩

theorem catalog_tellsOwn : ∀ r ∈ catalog, r.TellsOwn := by
  have hnone {r : Rule} (h : ∀ pod subject, r.figure pod subject = none) : r.TellsOwn := by
    intro pod subject _ n hn
    rw [h] at hn
    cases hn
  simp only [catalog, List.forall_mem_cons, List.not_mem_nil, false_implies, implies_true, and_true]
  repeat' apply And.intro
  all_goals try exact hnone fun _ _ => rfl
  · exact terminationGracePeriodCeiling_tellsOwn
  · exact unnamedUdpPort_tellsOwn
  · exact probeThreshold_tellsOwn (by simp)
  · exact probeThreshold_tellsOwn (by simp)
  · exact probeThreshold_tellsOwn (by simp)

end PodPolicy
