import PodPolicy.Proofs.Evaluation

/-!
# Rules that do not influence each other

Engines over different rules, side by side. `assess_independent`: the violations
of two lists of rules put together are those of the one and then those of the
other, and an engine with rules switched off finds what the whole one finds less
what those rules report.
-/

namespace PodPolicy

/-- What the rules find in a submission can be told: each of them gives a message,
nothing or a quantity that it cannot read. -/
def Submission.Tellable (given : Submission) (rules : List Rule) : Prop :=
  ∀ pod, given.readPod = .ok (some pod) → ∀ r ∈ rules, r.canTellAll pod = true

variable {rules more : List Rule} {disabled : List String} {workers : Int} {pod : Pod}
  {given : Submission} {e : Engine} {r : Rule}

theorem Submission.Tellable.mono {kept : List Rule} (h : given.Tellable rules)
    (hkept : kept ⊆ rules) : given.Tellable kept :=
  fun pod hread r hr => h pod hread r (hkept hr)

-- -----------------------------------------------------------------------------
-- What an engine makes of a submission
-- -----------------------------------------------------------------------------

theorem assess_judged (htells : given.Tellable e.rules)
    (h : given.readPod = .ok (some pod)) : e.assess given = .ok (e.judge pod) := by
  have hcanTell : e.canTell pod = true := by
    simp only [Engine.canTell, List.all_eq_true]
    exact fun r hr => htells pod h r (List.mem_filter.mp hr).1
  rw [assess_some h, Engine.verdict, if_pos hcanTell]
  rfl

-- -----------------------------------------------------------------------------
-- Active rules
-- -----------------------------------------------------------------------------

namespace Engine

theorem mem_disabled {id : String} :
    id ∈ (make rules disabled workers).disabled ↔ id ∈ disabled ∧ id ∈ rules.map Rule.id := by
  simp [make, knows]

theorem not_knows {id : String} : (!knows rules id) = decide (id ∉ rules.map Rule.id) := by
  rw [Bool.eq_iff_iff, Bool.not_eq_true', ← Bool.not_eq_true, decide_eq_true_eq]
  simp [knows]

theorem activeRules_make :
    (make rules disabled workers).activeRules = rules.filter fun r => r.id ∉ disabled := by
  refine List.filter_congr fun r hr => ?_
  have hknown : r.id ∈ rules.map Rule.id := List.mem_map_of_mem hr
  rw [isActive, Bool.eq_iff_iff, Bool.not_eq_true', ← Bool.not_eq_true, List.contains_iff_mem,
    mem_disabled, decide_eq_true_eq]
  simp [hknown]

theorem judge_make : (make rules disabled workers).judge pod =
    (rules.filter fun r => r.id ∉ disabled).flatMap fun r => r.violations pod := by
  rw [judge, activeRules_make]

end Engine

-- -----------------------------------------------------------------------------
-- Violations by rule
-- -----------------------------------------------------------------------------

theorem Rule.judge_ruleId {subject : r.scope.Subject} {v : Violation}
    (h : r.judge pod subject = some v) : v.ruleId = r.id := by
  unfold judge at h
  split at h <;> cases h <;> rfl

theorem Rule.violations_ruleId {v : Violation} (h : v ∈ r.violations pod) : v.ruleId = r.id := by
  obtain ⟨subject, -, hjudge⟩ := List.mem_filterMap.mp h
  exact judge_ruleId hjudge

theorem violations_filter (keep : String → Bool) :
    (rules.flatMap fun r => r.violations pod).filter (fun v => keep v.ruleId) =
      (rules.filter fun r => keep r.id).flatMap fun r => r.violations pod := by
  induction rules with
  | nil => rfl
  | cons r rest ih =>
    rw [List.flatMap_cons, List.filter_append, ih]
    cases hkeep : keep r.id with
    | true =>
      have hall : (r.violations pod).filter (fun v => keep v.ruleId) = r.violations pod :=
        List.filter_eq_self.mpr fun v hv => by rw [Rule.violations_ruleId hv, hkeep]
      rw [hall, List.filter_cons, if_pos hkeep, List.flatMap_cons]
    | false =>
      have hnone : (r.violations pod).filter (fun v => keep v.ruleId) = [] :=
        List.filter_eq_nil_iff.mpr fun v hv => by simp [Rule.violations_ruleId hv, hkeep]
      rw [hnone, List.filter_cons, if_neg (by simp [hkeep]), List.nil_append]

-- -----------------------------------------------------------------------------
-- Engines side by side
-- -----------------------------------------------------------------------------

abbrev Assessment := Except Unjudged (List Violation)

/-- Both parts and the whole refuse alike, or the whole has the violations of the
one part and then those of the other. -/
def Assessment.Joins (left right whole : Assessment) : Prop :=
  (∃ s, left = .error (.shape s) ∧ right = .error (.shape s) ∧ whole = .error (.shape s)) ∨
    ∃ first second, left = .ok first ∧ right = .ok second ∧ whole = .ok (first ++ second)

/-- Both refuse alike, or the rest has the violations of the whole in their
order, less those under the given ids. -/
def Assessment.LeavesOut (ids : List String) (whole rest : Assessment) : Prop :=
  (∃ s, whole = .error (.shape s) ∧ rest = .error (.shape s)) ∨
    ∃ violations, whole = .ok violations ∧
      rest = .ok (violations.filter fun v => v.ruleId ∉ ids)

theorem assess_append (htells : given.Tellable (rules ++ more)) (w₁ w₂ w₃ : Int) :
    Assessment.Joins ((Engine.make rules disabled w₁).assess given)
      ((Engine.make more disabled w₂).assess given)
      ((Engine.make (rules ++ more) disabled w₃).assess given) := by
  have hleft : given.Tellable rules := htells.mono (List.subset_append_left rules more)
  have hright : given.Tellable more := htells.mono (List.subset_append_right rules more)
  cases hread : given.readPod with
  | error s => exact .inl ⟨s, assess_error hread, assess_error hread, assess_error hread⟩
  | ok found =>
    refine .inr ?_
    cases found with
    | none => exact ⟨[], [], assess_none hread, assess_none hread, assess_none hread⟩
    | some pod =>
      refine ⟨_, _, assess_judged hleft hread, assess_judged hright hread, ?_⟩
      rw [assess_judged htells hread, Engine.judge_make, Engine.judge_make, Engine.judge_make,
        List.filter_append, List.flatMap_append]

theorem assess_disabled (htells : given.Tellable rules) (w₁ w₂ : Int) :
    Assessment.LeavesOut disabled ((Engine.make rules [] w₁).assess given)
      ((Engine.make rules disabled w₂).assess given) := by
  cases hread : given.readPod with
  | error s => exact .inl ⟨s, assess_error hread, assess_error hread⟩
  | ok found =>
    refine .inr ?_
    cases found with
    | none => exact ⟨[], assess_none hread, assess_none hread⟩
    | some pod =>
      refine ⟨_, assess_judged htells hread, ?_⟩
      have hall : (rules.filter fun r => decide (r.id ∉ ([] : List String))) = rules := by simp
      rw [assess_judged htells hread, Engine.judge_make, Engine.judge_make, hall,
        violations_filter fun id => decide (id ∉ disabled)]

/-- Rules do not influence each other. Put together, two lists of them find what
the one finds and then what the other finds, and to switch rules off is to leave
out what they report. Active are the rules that are not named; ids that name no
rule are warned of, once for each time that they are given. -/
theorem assess_independent (htells : given.Tellable (rules ++ more)) (w₁ w₂ w₃ : Int) :
    (∀ ids, Assessment.Joins ((Engine.make rules ids w₁).assess given)
      ((Engine.make more ids w₂).assess given)
      ((Engine.make (rules ++ more) ids w₃).assess given)) ∧
    Assessment.LeavesOut disabled ((Engine.make rules [] w₁).assess given)
      ((Engine.make rules disabled w₂).assess given) ∧
    (Engine.make rules disabled w₁).listRules =
      (rules.filter fun r => r.id ∉ disabled).map Rule.info ∧
    (∀ id, id ∈ (Engine.make rules disabled w₁).disabled ↔
      id ∈ disabled ∧ id ∈ rules.map Rule.id) ∧
    Engine.makeWarnings rules disabled =
      (disabled.filter fun id => id ∉ rules.map Rule.id).map fun id =>
        s!"Ignoring unknown rule in disabled rules: {id}" := by
  refine ⟨?joins, ?leaves, ?listed, fun _ => Engine.mem_disabled, ?warned⟩
  case joins => exact fun _ => assess_append htells w₁ w₂ w₃
  case leaves => exact assess_disabled (htells.mono (List.subset_append_left rules more)) w₁ w₂
  case listed => rw [Engine.listRules, Engine.activeRules_make]
  case warned =>
    rw [Engine.makeWarnings]
    exact congrArg _ (List.filter_congr fun id _ => Engine.not_knows)

def lotsRule : Rule where
  id := "lots"
  scope := .pod
  severity := .low
  category := "Quantities"
  description := "Lots must be no more than one."
  check := fun _ _ => .whenExceeds (.text "lots") (.text "1") "Lots are more than one"

def crowdedRules : List Rule :=
  [Catalog.hostNetwork, lotsRule, Catalog.hostNetwork]

def lonePod : Submission :=
  .decoded (.record [("kind", .text "Pod"), ("spec", .record [("hostNetwork", .bool true)])])

theorem crowdedRules_tellable : lonePod.Tellable (crowdedRules ++ [Catalog.seccompProfile]) := by
  intro pod _ r hr
  simp only [crowdedRules, List.cons_append, List.nil_append, List.mem_cons, List.not_mem_nil,
    or_false] at hr
  rcases hr with rfl | rfl | rfl | rfl <;> exact Rule.canTellAll_of_figure fun _ _ => rfl

theorem assess_crowdedRules :
    lonePod.Tellable (crowdedRules ++ [Catalog.seccompProfile]) ∧
    ∃ violations, (Engine.make crowdedRules [] 1).assess lonePod = .ok violations ∧
      violations.map (·.ruleId) = ["host-network", "lots", "host-network"] ∧
      (Engine.make crowdedRules ["nobody", "host-network", "nobody"] 4).assess lonePod =
        .ok (violations.filter fun v => v.ruleId = "lots") := by
  have hleaves : Assessment.LeavesOut ["nobody", "host-network", "nobody"]
      ((Engine.make crowdedRules [] 1).assess lonePod)
      ((Engine.make crowdedRules ["nobody", "host-network", "nobody"] 4).assess lonePod) :=
    (assess_independent crowdedRules_tellable 1 4 1).2.1
  refine ⟨crowdedRules_tellable, ?_⟩
  rcases hleaves with ⟨s, hwhole, -⟩ | ⟨violations, hwhole, hrest⟩
  · cases hwhole
  · refine ⟨violations, hwhole, ?_, ?_⟩
    · cases hwhole
      rfl
    · rw [hrest]
      cases hwhole
      rfl

end PodPolicy
