import PodPolicy.Engine
import PodPolicy.Proofs.ExceptLaws

/-!
# Outcomes of an evaluation

A manifest is refused for its shape, has no pod, or has a pod that is judged.
Each lemma reads one outcome as what stands behind it, so that the rest of the
theory does not open the engine again.
-/

namespace PodPolicy

open Workload

-- -----------------------------------------------------------------------------
-- The pod of a manifest
-- -----------------------------------------------------------------------------

variable {manifest v : Value} {entries spec : Entries} {pod : Pod} {kind : String}

theorem kindOf_ok : kindOf entries = .ok kind ↔ entries.get "kind" = .text kind ∧ kind ≠ "" := by
  unfold kindOf
  split
  · rename_i name hname
    rw [hname]
    by_cases h : name = "" <;> simp [h]
    all_goals grind
  · rename_i hne
    simp only [reduceCtorEq, false_iff, not_and]
    exact fun h => absurd h (hne kind)

theorem podless_ne {kind : String} (h : kind ∈ podlessKinds) :
    kind ≠ "" ∧ kind ≠ "Pod" := by
  constructor <;> rintro rfl <;> revert h <;> decide

theorem extractPod_none : extractPod (.mapping entries) = .ok none ↔
    ∃ kind ∈ podlessKinds, entries.get "kind" = .text kind := by
  simp only [extractPod, bind_ok, kindOf_ok]
  constructor
  · rintro ⟨kind, ⟨hkind, -⟩, h⟩
    refine ⟨kind, ?_, hkind⟩
    split at h
    · simp only [pure_ok, reduceCtorEq] at h
    · split at h
      · rename_i hpodless
        exact List.contains_iff_mem.mp hpodless
      · simp only [bind_ok, pure_ok, reduceCtorEq, and_false, exists_false] at h
  · rintro ⟨kind, hpodless, hkind⟩
    refine ⟨kind, ⟨hkind, (podless_ne hpodless).1⟩, ?_⟩
    rw [if_neg (podless_ne hpodless).2, if_pos (List.contains_iff_mem.mpr hpodless)]
    rfl

theorem podOfTemplate_ok {place : TemplatePlace} :
    podOfTemplate kind place entries spec = .ok v ↔
      ∃ template owner templateMetadata : Entries,
        templateIn spec place = .ok (.mapping template) ∧
        asMapping "metadata" (entries.get "metadata") = .ok owner ∧
        asMapping (place.path ++ ".metadata") (template.get "metadata") =
          .ok templateMetadata ∧
        lift owner template templateMetadata = v := by
  simp only [podOfTemplate, bind_ok]
  constructor
  · rintro ⟨template, htemplate, h⟩
    split at h
    · rename_i template
      simp only [bind_ok, pure_ok] at h
      obtain ⟨owner, howner, templateMetadata, hmetadata, h⟩ := h
      exact ⟨template, owner, templateMetadata, htemplate, howner, hmetadata, h⟩
    · cases h
  · rintro ⟨template, owner, templateMetadata, htemplate, howner, hmetadata, h⟩
    refine ⟨.mapping template, htemplate, ?_⟩
    simp only [bind_ok, pure_ok]
    exact ⟨owner, howner, templateMetadata, hmetadata, h⟩

/-- Any other manifest leads to the pod of its template, or is one if it has
containers. -/
theorem podOfOther_ok : podOfOther kind entries = .ok v ↔
    ∃ spec, asMapping "spec" (entries.get "spec") = .ok spec ∧
      ((∃ place, TemplatePlace.ofKind? kind = some place ∧
          podOfTemplate kind place entries spec = .ok v) ∨
        TemplatePlace.ofKind? kind = none ∧ spec.has "containers" = true ∧
          .mapping entries = v) := by
  simp only [podOfOther, bind_ok]
  refine exists_congr fun spec => and_congr_right fun _ => ?_
  cases TemplatePlace.ofKind? kind with
  | some place => simp
  | none => by_cases h : spec.has "containers" = true <;> simp [h, pure_ok]

theorem extractPod_some : extractPod (.mapping entries) = .ok (some v) ↔
    ∃ kind, (entries.get "kind" = .text kind ∧ kind ≠ "") ∧
      (kind = "Pod" ∧ .mapping entries = v ∨
        kind ≠ "Pod" ∧ kind ∉ podlessKinds ∧
          podOfOther kind entries = .ok v) := by
  simp only [extractPod, bind_ok, kindOf_ok]
  refine exists_congr fun kind => and_congr_right fun _ => ?_
  by_cases hpod : kind = "Pod"
  · simp [hpod, pure_ok]
  · by_cases hpodless : kind ∈ podlessKinds
    · simp [hpod, hpodless, pure_ok]
    · rw [if_neg hpod, if_neg (mt List.contains_iff_mem.mp hpodless)]
      simp only [bind_ok, pure_ok, Option.some.injEq, exists_eq_right, hpod, hpodless, false_and,
        false_or, ne_eq, not_false_eq_true, true_and]

theorem readPod_none :
    readPod manifest = .ok none ↔ extractPod manifest = .ok none := by
  simp only [readPod, bind_ok]
  constructor
  · rintro ⟨found, hfound, h⟩
    cases found with
    | none => exact hfound
    | some view => simp only [bind_ok, pure_ok, reduceCtorEq, and_false, exists_false] at h
  · exact fun h => ⟨none, h, rfl⟩

theorem readPod_some : readPod manifest = .ok (some pod) ↔
    ∃ view document, extractPod manifest = .ok (some view) ∧
      readDocument view = .ok document ∧ document.pod = pod := by
  simp only [readPod, bind_ok]
  constructor
  · rintro ⟨found, hfound, h⟩
    cases found with
    | none => simp only [pure_ok, reduceCtorEq] at h
    | some view =>
      simp only [bind_ok, pure_ok, Option.some.injEq] at h
      obtain ⟨document, hdocument, hpod⟩ := h
      exact ⟨view, document, hfound, hdocument, hpod⟩
  · rintro ⟨view, document, hview, hdocument, rfl⟩
    exact ⟨some view, hview, bind_ok.mpr ⟨document, hdocument, rfl⟩⟩

theorem readPod_ok : (∃ found, readPod manifest = .ok found) ↔
    ∃ found, extractPod manifest = .ok found ∧
      ∀ view, found = some view → ∃ document, readDocument view = .ok document := by
  constructor
  · rintro ⟨found, h⟩
    cases found with
    | none => exact ⟨none, readPod_none.mp h, nofun⟩
    | some pod =>
      obtain ⟨view, document, hextract, hdocument, -⟩ := readPod_some.mp h
      refine ⟨some view, hextract, ?_⟩
      rintro _ ⟨⟩
      exact ⟨document, hdocument⟩
  · rintro ⟨found, hextract, hdocument⟩
    cases found with
    | none => exact ⟨none, readPod_none.mpr hextract⟩
    | some view =>
      obtain ⟨document, hdocument⟩ := hdocument view rfl
      exact ⟨some document.pod, readPod_some.mpr ⟨view, document, hextract, hdocument, rfl⟩⟩

-- -----------------------------------------------------------------------------
-- Judging
-- -----------------------------------------------------------------------------

def Rule.Passes (r : Rule) (pod : Pod) : Prop :=
  ∀ subject ∈ r.scope.subjects pod, r.check pod subject = .ok none

variable {r : Rule} {e : Engine} {violations : List Violation}

theorem Engine.default_activeRules : Engine.default.activeRules = catalog := by
  simp [Engine.default, activeRules, isActive, make]

theorem Rule.judge_none {subject : r.scope.Subject} :
    r.judge pod subject = none ↔ r.check pod subject = .ok none := by
  unfold judge
  split <;> simp [*]

theorem Rule.violations_nil : r.violations pod = [] ↔ r.Passes pod := by
  simp only [violations, List.filterMap_eq_nil_iff, judge_none, Passes]

theorem Rule.Passes.canTellAll (h : r.Passes pod) : r.canTellAll pod = true := by
  simp only [Rule.canTellAll, List.all_eq_true]
  intro subject hsubject
  simp [Rule.canTell, h subject hsubject]

theorem Rule.canTellAll_of_figure (h : ∀ pod subject, r.figure pod subject = none) :
    r.canTellAll pod = true := by
  simp only [canTellAll, List.all_eq_true, canTell, h]
  intro subject _
  split <;> rfl

theorem Engine.verdict_nil :
    e.verdict pod = .ok [] ↔ ∀ r ∈ e.activeRules, r.Passes pod := by
  have hjudge : e.judge pod = [] ↔ ∀ r ∈ e.activeRules, r.Passes pod := by
    simp only [judge, List.flatMap_eq_nil_iff, Rule.violations_nil]
  constructor
  · intro h
    unfold verdict at h
    split at h
    · exact hjudge.mp (Except.ok.inj h)
    · cases h
  · intro h
    have htell : e.canTell pod = true := by
      simp only [canTell, List.all_eq_true]
      exact fun r hr => (h r hr).canTellAll
    simp [verdict, htell, hjudge.mpr h]

/-- Where a verdict fails, it is for a number that cannot be told. -/
theorem Engine.verdict_error {f : Fault} (h : e.verdict pod = .error f) :
    f = .untellableNumber := by
  unfold verdict at h
  split at h
  · cases h
  · exact (Except.error.inj h).symm

theorem Engine.verdict_untellable (hr : r ∈ e.activeRules) (h : r.canTellAll pod = false) :
    e.verdict pod = .error .untellableNumber := by
  have htell : e.canTell pod = false := by
    simp only [canTell, List.all_eq_false]
    exact ⟨r, hr, by simp [h]⟩
  simp [verdict, htell]

theorem evaluate_error {s : ShapeError} (h : readPod manifest = .error s) :
    e.evaluate manifest = .error (.shape s) := by
  rw [Engine.evaluate, h]
  rfl

theorem evaluate_none (h : readPod manifest = .ok none) : e.evaluate manifest = .ok [] := by
  rw [Engine.evaluate, h]
  rfl

theorem evaluate_some (h : readPod manifest = .ok (some pod)) :
    e.evaluate manifest = (e.verdict pod).mapError .fault := by
  rw [Engine.evaluate, h]
  rfl

theorem evaluate_congr {e' : Engine} (h : e.activeRules = e'.activeRules) :
    e.evaluate manifest = e'.evaluate manifest := by
  have hverdict (pod : Pod) : e.verdict pod = e'.verdict pod := by
    have htell : e.canTell pod = e'.canTell pod := by simp only [Engine.canTell, h]
    have hjudge : e.judge pod = e'.judge pod := by simp only [Engine.judge, h]
    simp only [Engine.verdict, htell, hjudge]
  simp only [Engine.evaluate, hverdict]

/-- An evaluation finds nothing where there is no pod, or where every active
rule passes the pod there is. -/
theorem evaluate_nil : e.evaluate manifest = .ok [] ↔
    readPod manifest = .ok none ∨
      ∃ pod, readPod manifest = .ok (some pod) ∧ ∀ r ∈ e.activeRules, r.Passes pod := by
  cases h : readPod manifest with
  | error s => simp [evaluate_error h]
  | ok found =>
    cases found with
    | none => simp [evaluate_none h]
    | some pod => simp [evaluate_some h, mapError_ok, Engine.verdict_nil]

-- -----------------------------------------------------------------------------
-- Submissions
-- -----------------------------------------------------------------------------

variable {given : Submission}

theorem assess_error {s : ShapeError} (h : given.readPod = .error s) :
    e.assess given = .error (.shape s) := by
  cases given with
  | decoded manifest => exact evaluate_error h
  | built document => cases h

theorem assess_none (h : given.readPod = .ok none) : e.assess given = .ok [] := by
  cases given with
  | decoded manifest => exact evaluate_none h
  | built document => cases h

theorem assess_some (h : given.readPod = .ok (some pod)) :
    e.assess given = (e.verdict pod).mapError .fault := by
  cases given with
  | decoded manifest => exact evaluate_some h
  | built document =>
    cases h
    rfl

end PodPolicy
