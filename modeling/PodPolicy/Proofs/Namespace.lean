import PodPolicy.Proofs.Independence
import PodPolicy.Proofs.Relocation

/-!
# The namespace of a workload

What a namespace decides. `evaluate_relocated`: a manifest in one namespace and the same
in another have no verdict for the same reason, or what is found in them differs by the
entries of the two rules for production alone, of which there are none anywhere else.
-/

namespace PodPolicy

open Workload

-- -----------------------------------------------------------------------------
-- Rules and the namespace
-- -----------------------------------------------------------------------------

def productionIds : List String :=
  ["production-pull-policy", "production-istio-injection"]

def elsewhere (found : List Violation) : List Violation :=
  found.filter fun v => v.ruleId ∉ productionIds

/-- A rule that judges a pod alike in all namespaces. -/
def Rule.IgnoresNamespace (r : Rule) : Prop :=
  ∀ (pod : Pod) (ns : Option String) (subject : r.scope.Subject),
    r.check (pod.inNamespace ns) subject = r.check pod subject ∧
      r.figure (pod.inNamespace ns) subject = r.figure pod subject

section
variable {r : Rule} {rules : List Rule} {e : Engine} {pod pod' : Pod} {ns : Option String}
  {found : List Violation}

theorem catalog_namespace : ∀ r ∈ catalog,
    (r = Catalog.productionPullPolicy ∨ r = Catalog.productionIstioInjection) ∨
      r.id ∉ productionIds ∧ r.IgnoresNamespace := by
  simp only [catalog, List.forall_mem_cons, List.not_mem_nil, false_implies, implies_true, and_true,
    true_or, or_true, true_and]
  repeat' apply And.intro
  all_goals exact .inr ⟨by decide, fun _ _ _ => ⟨rfl, rfl⟩⟩

theorem Scope.subjects_inNamespace (s : Scope) :
    s.subjects (pod.inNamespace ns) = s.subjects pod := by
  cases s <;> rfl

theorem Rule.IgnoresNamespace.block (h : r.IgnoresNamespace) :
    r.block (pod.inNamespace ns) = r.block pod := by
  have hjudge (subject) : r.judge (pod.inNamespace ns) subject = r.judge pod subject := by
    simp only [judge, (h pod ns subject).1]
  have htell (subject) : r.canTell (pod.inNamespace ns) subject = r.canTell pod subject := by
    simp only [canTell, (h pod ns subject).1, (h pod ns subject).2]
  simp only [Rule.block, report, Scope.subjects_inNamespace, funext hjudge, funext htell]

theorem production_rule
    (h : r = Catalog.productionPullPolicy ∨ r = Catalog.productionIstioInjection) :
    r.id ∈ productionIds ∧ r.block pod = .ok (r.violations pod) ∧
      (Catalog.inProduction pod = false → r.violations pod = []) := by
  have hfigure : ∀ pod subject, r.figure pod subject = none := by
    rcases h with rfl | rfl <;> exact fun _ _ => rfl
  refine ⟨?_, by rw [Rule.block_eq, if_pos (Rule.canTellAll_of_figure hfigure)], fun houtside => ?_⟩
  · rcases h with rfl | rfl <;> decide
  · refine Rule.violations_nil.mpr fun subject _ => ?_
    rcases h with rfl | rfl
    · simp [Catalog.productionPullPolicy, Finding.when, houtside]
    · simp [Catalog.productionIstioInjection, Finding.when, houtside]

theorem elsewhere_violations (h : r.id ∈ productionIds) : elsewhere (r.violations pod) = [] :=
  List.filter_eq_nil_iff.mpr fun v hv => by simp [Rule.violations_ruleId hv, h]

theorem blocks_elsewhere
    (h : ∀ r ∈ rules, (r.block pod).map elsewhere = (r.block pod').map elsewhere) :
    (blocks rules pod).map elsewhere = (blocks rules pod').map elsewhere := by
  have hjoin (x y : Except Fault (List Violation)) :
      (do return (← x) ++ (← y) : Except Fault (List Violation)).map elsewhere =
        do return (← x.map elsewhere) ++ (← y.map elsewhere) := by
    cases x with
    | error f => rfl
    | ok found =>
      cases y with
      | error f => rfl
      | ok more => exact congrArg Except.ok (List.filter_append _ _)
  induction rules with
  | nil => rfl
  | cons r rest ih =>
    rw [List.forall_mem_cons] at h
    rw [blocks_cons, blocks_cons, hjoin, hjoin, h.1, ih h.2]

theorem Engine.verdict_elsewhere (hrules : ∀ r ∈ e.activeRules, r ∈ catalog)
    (h : pod.inNamespace none = pod'.inNamespace none) :
    (e.verdict pod).map elsewhere = (e.verdict pod').map elsewhere := by
  rw [verdict_blocks, verdict_blocks]
  refine blocks_elsewhere fun r hr => ?_
  rcases catalog_namespace r (hrules r hr) with hproduction | ⟨-, hignores⟩
  · have hblock (pod : Pod) : (r.block pod).map elsewhere = .ok [] := by
      obtain ⟨hid, htold, -⟩ : r.id ∈ productionIds ∧ r.block pod = .ok (r.violations pod) ∧ _ :=
        production_rule hproduction
      rw [htold]
      exact congrArg Except.ok (elsewhere_violations hid)
    rw [hblock, hblock]
  · have hblock (pod : Pod) : r.block (pod.inNamespace none) = r.block pod := hignores.block
    rw [← hblock pod, h, hblock]

theorem Engine.verdict_outside (hrules : ∀ r ∈ e.activeRules, r ∈ catalog)
    (houtside : Catalog.inProduction pod = false) (h : e.verdict pod = .ok found) :
    ∀ v ∈ found, v.ruleId ∉ productionIds := by
  unfold verdict at h
  split at h
  · cases h
    intro v hv
    obtain ⟨r, hr, hv⟩ := List.mem_flatMap.mp hv
    rcases catalog_namespace r (hrules r hr) with hproduction | ⟨hid, -⟩
    · rw [(production_rule hproduction).2.2 houtside] at hv
      cases hv
    · rwa [Rule.violations_ruleId hv]
  · cases h

end

-- -----------------------------------------------------------------------------
-- Verdicts in two namespaces
-- -----------------------------------------------------------------------------

/-- What is found in a manifest in the namespaces `n` and `n'`: the same by all rules but
those for production, and by those nothing anywhere else. -/
structure FoundIn (n n' : Option String) (found found' : List Violation) : Prop where
  others : elsewhere found = elsewhere found'
  outside : n ≠ some "production" → ∀ v ∈ found, v.ruleId ∉ productionIds
  outside' : n' ≠ some "production" → ∀ v ∈ found', v.ruleId ∉ productionIds
  neither : n ≠ some "production" → n' ≠ some "production" → found = found'
  leaving : n = some "production" → n' ≠ some "production" → found' = elsewhere found

/-- Both manifests are refused with the same error, both have a message that cannot be
told, or both have a verdict. -/
inductive JudgedIn (n n' : Option String) :
    Except Unjudged (List Violation) → Except Unjudged (List Violation) → Prop
  | refused (s : ShapeError) : JudgedIn n n' (.error (.shape s)) (.error (.shape s))
  | untold : JudgedIn n n' (.error (.fault .untellableNumber)) (.error (.fault .untellableNumber))
  | found {found found' : List Violation} (h : FoundIn n n' found found') :
      JudgedIn n n' (.ok found) (.ok found')

section
variable {n n' : Option String} {e : Engine} {pod pod' : Pod} {found found' : List Violation}
  {entries changed : Entries}

theorem elsewhere_self (h : ∀ v ∈ found, v.ruleId ∉ productionIds) : elsewhere found = found :=
  List.filter_eq_self.mpr fun v hv => decide_eq_true (h v hv)

theorem FoundIn.of_others (hothers : elsewhere found = elsewhere found')
    (houtside : n ≠ some "production" → ∀ v ∈ found, v.ruleId ∉ productionIds)
    (houtside' : n' ≠ some "production" → ∀ v ∈ found', v.ruleId ∉ productionIds) :
    FoundIn n n' found found' where
  others := hothers
  outside := houtside
  outside' := houtside'
  neither hn hn' := by rw [← elsewhere_self (houtside hn), hothers, elsewhere_self (houtside' hn')]
  leaving _ hn' := by rw [hothers, elsewhere_self (houtside' hn')]

theorem verdict_relocated (hrules : ∀ r ∈ e.activeRules, r ∈ catalog)
    (h : pod.Relocates n n' pod') :
    JudgedIn n n' ((e.verdict pod).mapError .fault) ((e.verdict pod').mapError .fault) := by
  have hsame := Engine.verdict_elsewhere hrules h.same
  have houtside (hn : n ≠ some "production") : Catalog.inProduction pod = false :=
    Bool.eq_false_iff.mpr (mt h.place.mp hn)
  have houtside' (hn' : n' ≠ some "production") : Catalog.inProduction pod' = false :=
    Bool.eq_false_iff.mpr (mt h.place'.mp hn')
  cases hverdict : e.verdict pod with
  | error f =>
    rw [hverdict] at hsame
    cases hverdict' : e.verdict pod' with
    | error f' =>
      obtain rfl := Engine.verdict_error hverdict
      obtain rfl := Engine.verdict_error hverdict'
      exact .untold
    | ok found' =>
      rw [hverdict'] at hsame
      cases hsame
  | ok found =>
    rw [hverdict] at hsame
    cases hverdict' : e.verdict pod' with
    | error f' =>
      rw [hverdict'] at hsame
      cases hsame
    | ok found' =>
      rw [hverdict'] at hsame
      exact .found (.of_others (Except.ok.inj hsame)
        (fun hn => Engine.verdict_outside hrules (houtside hn) hverdict)
        fun hn' => Engine.verdict_outside hrules (houtside' hn') hverdict')

theorem judged_relocated (hrules : ∀ r ∈ e.activeRules, r ∈ catalog)
    (h : entries.Relocates n n' changed) (hunplaced : entries.TemplateUnplaced) :
    JudgedIn n n' (e.evaluate (.mapping entries)) (e.evaluate (.mapping changed)) := by
  have hread := readPod_relocated h hunplaced
  rw [Engine.evaluate, Engine.evaluate]
  generalize readPod (.mapping entries) = read at hread ⊢
  generalize readPod (.mapping changed) = read' at hread ⊢
  cases hread with
  | error s => exact .refused s
  | ok hfound =>
    cases hfound with
    | none =>
      exact .found (.of_others rfl (fun _ => List.forall_mem_nil _) fun _ => List.forall_mem_nil _)
    | some hpod => exact verdict_relocated hrules hpod

end

-- -----------------------------------------------------------------------------
-- Manifests and requests
-- -----------------------------------------------------------------------------

def Entries.inNamespace (entries metadata : Entries) (n : Option String) : Entries :=
  entries.put (.text "metadata") (.mapping (metadata.put (.text "namespace") (.ofNamespace n)))

def AdmissionRequest.inNamespace (request : AdmissionRequest) (n : Option String) :
    AdmissionRequest :=
  { request with namespaceName := n }

section
variable {n n' : Option String} {entries metadata : Entries} {v : Value}

theorem Entries.TemplateUnplaced.put (h : entries.TemplateUnplaced) :
    (entries.put (.text "metadata") v).TemplateUnplaced := by
  intro kind place w hkind hmem hat
  rw [Entries.get_put_other (by simp)] at hkind
  refine h kind place w hkind hmem ?_
  have hspec : (entries.put (.text "metadata") v).get? "spec" = entries.get? "spec" :=
    Entries.get?_put_other (by simp)
  cases place <;> simpa only [TemplatePlace.keys, List.cons_append, Value.at?, hspec] using hat

theorem inNamespace_relocates :
    (entries.inNamespace metadata n).Relocates n n' (entries.inNamespace metadata n') where
  sameBut := .put_put
  metadata := ⟨_, _, Entries.get?_put_same, Entries.get?_put_same, .put_put,
    by rw [Entries.get_put_same]; exact .of_ofNamespace,
    by rw [Entries.get_put_same]; exact .of_ofNamespace⟩

theorem completed_relocates (h : (metadata.get "namespace").IsUnplaced) :
    (entries.put (.text "metadata") (.mapping (fillNamespace metadata n))).Relocates n n'
      (entries.put (.text "metadata") (.mapping (fillNamespace metadata n'))) where
  sameBut := .put_put
  metadata := ⟨_, _, Entries.get?_put_same, Entries.get?_put_same,
    Entries.fillNamespace_sameBut.symm.trans Entries.fillNamespace_sameBut,
    fillNamespace_standsFor h, fillNamespace_standsFor h⟩

end

/-- The namespace matters only through being production. A manifest whose metadata is
null or a mapping, and whose template has no namespace of its own, is judged alike in any
two namespaces but for the two rules for production; so is the object of a request
without a namespace, in any two namespaces of the request. -/
theorem evaluate_relocated {entries metadata : Entries} (disabled : List String) (workers : Int)
    (n n' : Option String)
    (hmetadata : (entries.get "metadata").collapse (.mapping []) = .mapping metadata)
    (hunplaced : entries.TemplateUnplaced) :
    let e := Engine.make catalog disabled workers
    JudgedIn n n' (e.evaluate (.mapping (entries.inNamespace metadata n)))
        (e.evaluate (.mapping (entries.inNamespace metadata n'))) ∧
      ∀ request : AdmissionRequest, request.entries = entries → entries ≠ [] →
        (metadata.get "namespace").IsUnplaced →
          ∃ outcome outcome', JudgedIn n n' outcome outcome' ∧ ∀ mode,
            (request.inNamespace n).verdict e mode = Verdict.ofOutcome mode outcome ∧
              (request.inNamespace n').verdict e mode = Verdict.ofOutcome mode outcome' := by
  intro e
  have hrules : ∀ r ∈ e.activeRules, r ∈ catalog := fun r hr => (List.mem_filter.mp hr).1
  refine ⟨judged_relocated hrules inNamespace_relocates hunplaced.put, ?_⟩
  rintro request rfl hobject hnamespace
  have hentries : metadataEntries (request.entries.get "metadata") = .ok metadata :=
    (AdmissionRequest.metadata_of_collapse hmetadata).entries
  exact ⟨e.evaluate ((request.inNamespace n).completed metadata),
    e.evaluate ((request.inNamespace n').completed metadata),
    judged_relocated hrules (completed_relocates hnamespace) hunplaced.put, fun mode =>
      ⟨AdmissionRequest.verdict_completed hobject hentries,
        AdmissionRequest.verdict_completed hobject hentries⟩⟩

def pullingJob : Entries :=
  [(.text "kind", .text "CronJob"),
   (.text "spec", .record [("jobTemplate", .record [("spec", .record [("template", .record [
      ("spec", .record [("containers", .list [.record [("name", .text "web"),
        ("imagePullPolicy", .text "Always")]])])])])])])]

theorem pullingJob_templateUnplaced : pullingJob.TemplateUnplaced := by
  intro kind place v hkind hmem hat
  cases hkind
  cases place with
  | direct => exact absurd hmem (by decide)
  | ofJob => cases hat

def pullingRequest : AdmissionRequest where
  uid := "u"
  namespaceName := none
  operation := none
  object := some [("kind", .text "CronJob"), ("spec", pullingJob.get "spec")]

/-- What is found in production and not in staging is that of one rule, and so is what a
request in production is answered and one in staging is not. -/
theorem evaluate_pullingJob :
    (pullingJob.get "metadata").collapse (.mapping []) = .mapping [] ∧
      pullingJob.TemplateUnplaced ∧
      (∃ found found', evaluate (.mapping (pullingJob.inNamespace [] (some "production"))) =
          .ok found ∧
        evaluate (.mapping (pullingJob.inNamespace [] (some "staging"))) = .ok found' ∧
          found' = elsewhere found ∧ found ≠ found') ∧
      pullingRequest.entries = pullingJob ∧
      ∃ found found', found' = elsewhere found ∧ found ≠ found' ∧ ∀ mode,
        (pullingRequest.inNamespace (some "production")).verdict Engine.default mode =
            .ok (.ofViolations mode found) ∧
          (pullingRequest.inNamespace (some "staging")).verdict Engine.default mode =
            .ok (.ofViolations mode found') := by
  obtain ⟨hjudged, hrequest⟩ := evaluate_relocated [] 1 (some "production") (some "staging")
    (rfl : (pullingJob.get "metadata").collapse (.mapping []) = .mapping [])
    pullingJob_templateUnplaced
  refine ⟨rfl, pullingJob_templateUnplaced, ?_, rfl, ?_⟩
  · obtain ⟨found, hfound, hpulls⟩ : ∃ found,
        evaluate (.mapping (pullingJob.inNamespace [] (some "production"))) = .ok found ∧
          found.any (fun v => v.ruleId == "production-pull-policy") = true := ⟨_, rfl, rfl⟩
    obtain ⟨found', hfound'⟩ : ∃ found',
        evaluate (.mapping (pullingJob.inNamespace [] (some "staging"))) = .ok found' := ⟨_, rfl⟩
    have hapart : FoundIn (some "production") (some "staging") found found' := by
      change JudgedIn _ _ (evaluate _) (evaluate _) at hjudged
      rw [hfound, hfound'] at hjudged
      cases hjudged with
      | found h => exact h
    refine ⟨found, found', hfound, hfound', hapart.leaving rfl (by decide), ?_⟩
    rintro rfl
    obtain ⟨v, hv, hid⟩ := List.any_eq_true.mp hpulls
    rw [beq_iff_eq] at hid
    exact hapart.outside' (by decide) v hv (hid ▸ by decide)
  · obtain ⟨outcome, outcome', hapart, hverdict⟩ := hrequest pullingRequest rfl nofun (.inl rfl)
    obtain ⟨warned, warned', hwarned, hwarned', hne⟩ : ∃ warned warned',
        (pullingRequest.inNamespace (some "production")).verdict Engine.default "audit" =
            .ok (.allowedWithWarnings warned) ∧
          (pullingRequest.inNamespace (some "staging")).verdict Engine.default "audit" =
            .ok (.allowedWithWarnings warned') ∧ warned.length ≠ warned'.length :=
      ⟨_, _, rfl, rfl, by decide⟩
    replace hwarned := (hverdict "audit").1.symm.trans hwarned
    replace hwarned' := (hverdict "audit").2.symm.trans hwarned'
    cases hapart with
    | refused s => cases hwarned
    | untold => cases hwarned
    | @found found found' h =>
      refine ⟨found, found', h.leaving rfl (by decide), ?_, hverdict⟩
      rintro rfl
      cases hwarned.symm.trans hwarned'
      exact hne rfl

theorem endlessPod_unjudged :
    (endlessPod.get "metadata").collapse (.mapping []) = .mapping [] ∧
      endlessPod.get "kind" = .text "Pod" ∧
      ∀ n ∈ [some "production", some "staging"],
        (∀ s, evaluate (.mapping (endlessPod.inNamespace [] n)) ≠ .error (.shape s)) ∧
          ∀ found, evaluate (.mapping (endlessPod.inNamespace [] n)) ≠ .ok found := by
  refine ⟨rfl, rfl, fun n _ => ?_⟩
  have hread : readPod (.mapping (endlessPod.inNamespace [] n)) = .ok (some ⟨"Pod", none,
      { namespaceName := n }, { terminationGracePeriodSeconds := some Numeral.tellingLimit }⟩) := by
    cases n <;> rfl
  rw [evaluate_endless hread rfl]
  exact ⟨nofun, nofun⟩

end PodPolicy
