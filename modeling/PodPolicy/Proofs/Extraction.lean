import PodPolicy.Proofs.Completion
import PodPolicy.Proofs.Parts

/-!
# What is extracted is a pod

`extractPod_projects`: a manifest without a pod is known by its kind alone; any other
is refused or leads to a pod that is its own, so that extracting it once more changes
nothing and every engine decides on it as on the manifest. A controller is refused
exactly where a part on the way to its pod is no mapping.
-/

namespace PodPolicy

namespace Workload

-- -----------------------------------------------------------------------------
-- Pods that are their own
-- -----------------------------------------------------------------------------

/-- A mapping of the kind Pod, or one of a kind that is neither known to carry no pods
nor that of a controller, which then has containers in its spec. -/
def IsOwnPod (v : Value) : Prop :=
  ∃ (entries : Entries) (kind : String),
    v = .mapping entries ∧ entries.get "kind" = .text kind ∧ kind ≠ "" ∧
      (kind = "Pod" ∨
        kind ∉ podlessKinds ∧ (∀ place : TemplatePlace, kind ∉ place.kinds) ∧
          ∃ containers, v.at? ["spec", "containers"] = some containers)

variable {v view : Value} {entries spec template owner templateMetadata : Entries}
  {place : TemplatePlace} {kind path : String}

theorem ofKind?_none :
    TemplatePlace.ofKind? kind = none ↔ ∀ place : TemplatePlace, kind ∉ place.kinds := by
  constructor
  · intro h place hkind
    rw [(kinds_spec hkind).2.2.2] at h
    cases h
  · intro h
    have hdirect : kind ∉ templateKinds := h .direct
    have hjob : kind ≠ "CronJob" := fun hkind => h .ofJob (List.mem_singleton.mpr hkind)
    rw [TemplatePlace.ofKind?, if_neg (mt List.contains_iff_mem.mp hdirect), if_neg hjob]

theorem at?_containers : (∃ found, (Value.mapping entries).at? ["spec", "containers"] = some found) ↔
    ∃ spec, asMapping path (entries.get "spec") = .ok spec ∧ spec.has "containers" = true := by
  simp only [Entries.has_eq, Option.isSome_iff_exists]
  constructor
  · rintro ⟨found, hat⟩
    simp only [Value.at?_cons, Value.at?_nil, Value.mapping.injEq] at hat
    obtain ⟨_, rfl, _, hspec, spec, rfl, _, hfound, -⟩ := hat
    exact ⟨spec, by rw [Entries.get_of_get? hspec, asMapping], _, hfound⟩
  · rintro ⟨spec, hspec, found, hfound⟩
    refine ⟨found, ?_⟩
    rw [asMapping_at? hspec hfound, Value.at?, hfound, Option.bind_some, Value.at?_nil]

theorem lift_isOwnPod : IsOwnPod (lift owner template templateMetadata) :=
  ⟨_, "Pod", rfl, rfl, by decide, .inl rfl⟩

theorem extractPod_isOwnPod (h : extractPod v = .ok (some view)) : IsOwnPod view := by
  cases v with
  | mapping entries =>
    obtain ⟨kind, ⟨hkind, hne⟩, ⟨hpod, rfl⟩ | ⟨-, hpodless, hother⟩⟩ := extractPod_some.mp h
    · exact ⟨entries, kind, rfl, hkind, hne, .inl hpod⟩
    · obtain ⟨spec, hspec, ⟨place, -, hplace⟩ | ⟨hplace, hcontainers, rfl⟩⟩ :=
        podOfOther_ok.mp hother
      · obtain ⟨_, _, _, -, -, -, rfl⟩ := podOfTemplate_ok.mp hplace
        exact lift_isOwnPod
      · exact ⟨entries, kind, rfl, hkind, hne, .inr ⟨hpodless, ofKind?_none.mp hplace,
          at?_containers.mpr ⟨spec, hspec, hcontainers⟩⟩⟩
  | _ => cases h

theorem extractPod_self : extractPod v = .ok (some v) ↔ IsOwnPod v := by
  refine ⟨extractPod_isOwnPod, ?_⟩
  rintro ⟨entries, kind, rfl, hkind, hne, hview⟩
  refine extractPod_some.mpr ⟨kind, ⟨hkind, hne⟩, ?_⟩
  rcases hview with rfl | ⟨hpodless, hplace, hcontainers⟩
  · exact .inl ⟨rfl, rfl⟩
  · by_cases hpod : kind = "Pod"
    · exact .inl ⟨hpod, rfl⟩
    · obtain ⟨spec, hspec, hcontainers⟩ := at?_containers.mp hcontainers
      exact .inr ⟨hpod, hpodless, podOfOther_ok.mpr
        ⟨spec, hspec, .inr ⟨ofKind?_none.mpr hplace, hcontainers, rfl⟩⟩⟩

theorem extractPod_podless : extractPod v = .ok none ↔
    ∃ entries : Entries, v = .mapping entries ∧
      ∃ kind ∈ podlessKinds, entries.get "kind" = .text kind := by
  cases v with
  | mapping entries => simp [extractPod_none]
  | _ => simp [extractPod]

-- -----------------------------------------------------------------------------
-- Controllers that are refused
-- -----------------------------------------------------------------------------

/-- Neither nothing nor a mapping stands at the path. -/
def Obstructs (v : Value) (path : List String) : Prop :=
  ∃ part, v.at? path = some part ∧ part ≠ .null ∧ ∀ inner, part ≠ .mapping inner

def TemplatePlace.parts : TemplatePlace → List (List String)
  | .direct => [["spec"], ["metadata"], ["spec", "template", "metadata"]]
  | .ofJob =>
    [["spec"], ["spec", "jobTemplate"], ["spec", "jobTemplate", "spec"], ["metadata"],
      ["spec", "jobTemplate", "spec", "template", "metadata"]]

theorem asMapping_obstructs {name : String} :
    (∃ part, asMapping path (entries.get name) = .ok part) ↔
      ¬Obstructs (.mapping entries) [name] := by
  simp only [asMapping_ok, Obstructs, Value.at?, Entries.get]
  cases entries.get? name with
  | none => simp [Value.collapse]
  | some part => cases part <;> simp [Value.collapse]

theorem Obstructs.at? {prior : List String} {name : String} {more : List String}
    (h : Obstructs v prior) : v.at? (prior ++ name :: more) = none := by
  obtain ⟨part, hpart, -, hother⟩ := h
  rw [Value.at?_append, hpart, Option.bind_some]
  cases part with
  | mapping inner => exact absurd rfl (hother inner)
  | _ => rfl

theorem extractPod_controller (hmem : kind ∈ place.kinds) (hkind : entries.get "kind" = .text kind) :
    (∃ found, extractPod (.mapping entries) = .ok found) ↔
      ∃ template : Entries,
        (Value.mapping entries).at? place.keys = some (.mapping template) ∧
          ¬Obstructs (.mapping entries) ["metadata"] ∧
          ¬Obstructs (.mapping template) ["metadata"] := by
  obtain ⟨hne, hpod, hpodless, hplace⟩ := kinds_spec hmem
  constructor
  · rintro ⟨found, h⟩
    cases found with
    | none =>
      obtain ⟨_, hmem', hkind'⟩ := extractPod_none.mp h
      cases hkind.symm.trans hkind'
      exact absurd hmem' hpodless
    | some view =>
      obtain ⟨_, ⟨hkind', -⟩, h⟩ := extractPod_some.mp h
      cases hkind.symm.trans hkind'
      obtain ⟨-, -, hother⟩ := h.resolve_left fun h => hpod h.1
      obtain ⟨spec, hspec, ⟨_, hplace', h⟩ | ⟨hplace', -⟩⟩ := podOfOther_ok.mp hother
      · cases hplace.symm.trans hplace'
        obtain ⟨template, owner, templateMetadata, htemplate, howner, hmetadata, -⟩ :=
          podOfTemplate_ok.mp h
        exact ⟨template, at?_templateIn hspec htemplate, asMapping_obstructs.mp ⟨_, howner⟩,
          asMapping_obstructs.mp ⟨_, hmetadata⟩⟩
      · cases hplace.symm.trans hplace'
  · rintro ⟨template, hat, howner, hmetadata⟩
    obtain ⟨owner, howner⟩ := asMapping_obstructs.mpr howner
    obtain ⟨templateMetadata, hmetadata⟩ := asMapping_obstructs.mpr hmetadata
    obtain ⟨spec, hspec, htemplate⟩ := templateIn_ok hat
    have hlift : podOfTemplate kind place entries spec =
        .ok (lift owner template templateMetadata) := podOfTemplate_ok.mpr
      ⟨template, owner, templateMetadata, htemplate, howner, hmetadata, rfl⟩
    exact ⟨_, extractPod_some.mpr ⟨kind, ⟨hkind, hne⟩, .inr ⟨hpod, hpodless, podOfOther_ok.mpr
      ⟨spec, by rw [hspec, asMapping], .inl ⟨place, hplace, hlift⟩⟩⟩⟩⟩

theorem obstructs_append {prior : List String} (h : v.at? prior = some (.mapping template))
    {name : String} : Obstructs v (prior ++ [name]) ↔ Obstructs (.mapping template) [name] := by
  simp only [Obstructs, Value.at?_append, h, Option.bind_some]

theorem extractPod_refused (hmem : kind ∈ place.kinds) (hkind : entries.get "kind" = .text kind) :
    (∃ s, extractPod (.mapping entries) = .error s) ↔
      (∃ part ∈ place.parts, Obstructs (.mapping entries) part) ∨
        ∀ template, (Value.mapping entries).at? place.keys ≠ some (.mapping template) := by
  have herror : (∃ s, extractPod (.mapping entries) = .error s) ↔
      ¬∃ found, extractPod (.mapping entries) = .ok found := by
    cases extractPod (.mapping entries) <;> simp
  rw [herror, extractPod_controller hmem hkind]
  by_cases hat : ∃ template, (Value.mapping entries).at? place.keys = some (.mapping template)
  · obtain ⟨template, hat⟩ := hat
    have hfree : ∀ prior name more, place.keys = prior ++ name :: more →
        ¬Obstructs (.mapping entries) prior := by
      intro prior name more hkeys hblock
      rw [hkeys, hblock.at?] at hat
      cases hat
    have hparts : (∃ part ∈ place.parts, Obstructs (.mapping entries) part) ↔
        Obstructs (.mapping entries) ["metadata"] ∨
          Obstructs (.mapping entries) (place.keys ++ ["metadata"]) := by
      cases place with
      | direct => simp [TemplatePlace.parts, TemplatePlace.keys, hfree ["spec"] _ _ rfl]
      | ofJob =>
        simp [TemplatePlace.parts, TemplatePlace.keys, hfree ["spec"] _ _ rfl,
          hfree ["spec", "jobTemplate"] _ _ rfl, hfree ["spec", "jobTemplate", "spec"] _ _ rfl]
    rw [hparts, obstructs_append hat]
    simp only [hat, Option.some.injEq, Value.mapping.injEq, exists_eq_left', not_and, not_not]
    have hgiven : ¬∀ other, template ≠ other := fun h => h template rfl
    simp only [ne_eq] at hgiven
    tauto
  · have hnone : ∀ template, (Value.mapping entries).at? place.keys ≠ some (.mapping template) :=
      fun template h => hat ⟨template, h⟩
    refine iff_of_true ?_ (.inr hnone)
    rintro ⟨template, h, -⟩
    exact hnone template h

end Workload

-- -----------------------------------------------------------------------------
-- Engines and checks
-- -----------------------------------------------------------------------------

open Workload

variable {e : Engine} {v view name : Value} {entries : Entries} {file : String}

theorem evaluate_extracted : match extractPod v with
    | .error s => e.evaluate v = .error (.shape s)
    | .ok none => e.evaluate v = .ok []
    | .ok (some view) => e.evaluate v = e.evaluate view := by
  split
  · rename_i s h
    exact evaluate_error (bind_error.mpr (.inl h))
  · rename_i h
    exact evaluate_none (readPod_none.mpr h)
  · rename_i view h
    have hself : extractPod view = .ok (some view) := extractPod_self.mpr (extractPod_isOwnPod h)
    have hread : readPod v = readPod view := by rw [readPod, readPod, h, hself]
    rw [Engine.evaluate, Engine.evaluate, hread]

theorem Check.manifest_extracted (hname : manifestName entries = .ok name) :
    Check.manifest e file entries = match extractPod (.mapping entries) with
      | .error s => .error (.shape s)
      | .ok none => if name.isTellable then .ok none else .error (.fault .untellableNumber)
      | .ok (some view) => ((e.evaluate view).mapError ofUnjudged).map fun violations =>
          some ⟨file, entries.get "kind", name, violations⟩ := by
  have hevaluate := evaluate_extracted (e := e) (v := .mapping entries)
  rw [Check.manifest, hname]
  generalize extractPod (.mapping entries) = found at hevaluate ⊢
  cases found with
  | error s => rfl
  | ok found =>
    cases found with
    | none => rfl
    | some view =>
      dsimp only at hevaluate ⊢
      rw [← hevaluate]
      cases e.evaluate (.mapping entries) <;> rfl

/-- Extraction projects manifests onto pods that are their own, and a manifest has no pod
only by its kind; engines and checks go by the pod. -/
theorem extractPod_projects (v : Value) :
    (extractPod v = .ok none ↔ ∃ entries : Entries, v = .mapping entries ∧
      ∃ kind ∈ podlessKinds, entries.get "kind" = .text kind) ∧
    (∀ view, extractPod v = .ok (some view) →
      IsOwnPod view ∧ extractPod view = .ok (some view) ∧
        ∀ e : Engine, e.evaluate view = e.evaluate v) ∧
    (∀ (e : Engine) (file : String) (entries : Entries) (name : Value), v = .mapping entries →
      Check.manifestName entries = .ok name →
        Check.manifest e file entries = match extractPod v with
          | .error s => .error (.shape s)
          | .ok none => if name.isTellable then .ok none else .error (.fault .untellableNumber)
          | .ok (some view) => ((e.evaluate view).mapError Check.ofUnjudged).map fun violations =>
              some ⟨file, entries.get "kind", name, violations⟩) ∧
    ∀ (place : TemplatePlace) (entries : Entries) (kind : String), v = .mapping entries →
      entries.get "kind" = .text kind → kind ∈ place.kinds →
        ((∃ s, extractPod v = .error s) ↔
          (∃ part ∈ place.parts, Obstructs v part) ∨
            ∀ template, v.at? place.keys ≠ some (.mapping template)) := by
  refine ⟨extractPod_podless, ?view, ?check, ?controller⟩
  case view =>
    intro view h
    refine ⟨extractPod_isOwnPod h, extractPod_self.mpr (extractPod_isOwnPod h), fun e => ?_⟩
    have hevaluate := evaluate_extracted (e := e) (v := v)
    rw [h] at hevaluate
    exact hevaluate.symm
  case check =>
    rintro e file entries name rfl hname
    exact Check.manifest_extracted hname
  case controller =>
    rintro place entries kind rfl hkind hmem
    exact extractPod_refused hmem hkind

/-- A job that is extracted and judged as its pod, and one whose template is a text. -/
theorem extractPod_hostJob :
    (∃ view, extractPod (.mapping hostJob) = .ok (some view) ∧
      extractPod view = .ok (some view) ∧
        Engine.default.evaluate view = Engine.default.evaluate (.mapping hostJob)) ∧
    (Check.manifestName hostJob = .ok (.text "nightly") ∧
      ∃ report, Check.manifest Engine.default "job.yaml" hostJob = .ok (some report)) ∧
    hostJob.get "kind" = .text "CronJob" ∧ "CronJob" ∈ TemplatePlace.ofJob.kinds ∧
      ¬∃ part ∈ TemplatePlace.ofJob.parts, Obstructs (.mapping hostJob) part := by
  obtain ⟨-, hview, hcheck, hcontroller⟩ := extractPod_projects (.mapping hostJob)
  obtain ⟨view, hextract⟩ : ∃ view, extractPod (.mapping hostJob) = .ok (some view) := ⟨_, rfl⟩
  obtain ⟨-, hself, hevaluate⟩ := hview view hextract
  refine ⟨⟨view, hextract, hself, hevaluate _⟩, ⟨rfl, ?_⟩, rfl, by decide, fun hpart => ?_⟩
  · rw [hcheck _ _ _ _ rfl rfl, hextract]
    obtain ⟨violations, hviolations⟩ : ∃ violations,
        Engine.default.evaluate (.mapping hostJob) = .ok violations := ⟨_, rfl⟩
    exact ⟨⟨_, _, _, violations⟩, by dsimp only; rw [hevaluate, hviolations]; rfl⟩
  · obtain ⟨s, herror⟩ := (hcontroller .ofJob _ _ rfl rfl (by decide)).mpr (.inl hpart)
    cases hextract.symm.trans herror

end PodPolicy
