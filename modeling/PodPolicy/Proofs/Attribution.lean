import Mathlib.Data.List.Forall2
import Mathlib.Data.Prod.Lex
import PodPolicy.Proofs.Evaluation

/-!
# Where violations come from

A violation is found at a site: a rule by its number among the active ones and a
subject by its number among those of the rule's scope. `assess_attributed`: the
violations of a pod are what is found at its sites, each once and site after
site, and the subjects of a scope are what stands in the manifest, in its order.
-/

namespace PodPolicy

-- -----------------------------------------------------------------------------
-- Enumerations
-- -----------------------------------------------------------------------------

/-- The items of a list stand at places that follow each other strictly, and
nothing stands at any other place. -/
structure Enumerates {ι α : Type} (before : ι → ι → Prop) (stands : ι → α → Prop)
    (places : List ι) (items : List α) : Prop where
  ordered : places.Pairwise before
  matched : List.Forall₂ stands places items
  complete : ∀ place item, stands place item → place ∈ places

def Enumerated {ι α : Type} (before : ι → ι → Prop) (stands : ι → α → Prop)
    (items : List α) : Prop :=
  ∃ places, Enumerates before stands places items

section
variable {ι α β : Type} {before : ι → ι → Prop} {stands : ι → α → Prop} {items : List α}

theorem enumerated_filterMap (f : α → Option β) (xs : List α) :
    Enumerated (· < ·) (fun (i : Nat) b => ∃ a, xs[i]? = some a ∧ f a = some b)
      (xs.filterMap f) := by
  induction xs with
  | nil => exact ⟨[], .nil, .nil, by simp⟩
  | cons a rest ih =>
    obtain ⟨places, hordered, hstands, hcomplete⟩ := ih
    have hshifted : (places.map (· + 1)).Pairwise (· < ·) :=
      List.pairwise_map.mpr (hordered.imp fun h => Nat.succ_lt_succ h)
    have hrest : List.Forall₂ (fun (i : Nat) b => ∃ x, (a :: rest)[i]? = some x ∧ f x = some b)
        (places.map (· + 1)) (rest.filterMap f) := by
      rw [List.forall₂_map_left_iff]
      exact hstands.imp fun i b h => by simpa using h
    cases hfirst : f a with
    | none =>
      rw [List.filterMap_cons_none hfirst]
      refine ⟨places.map (· + 1), hshifted, hrest, ?_⟩
      rintro (_ | i) b ⟨x, hx, hb⟩
      · cases hx
        rw [hfirst] at hb
        cases hb
      · exact List.mem_map_of_mem (hcomplete i b ⟨x, by simpa using hx, hb⟩)
    | some first =>
      rw [List.filterMap_cons_some hfirst]
      refine ⟨0 :: places.map (· + 1), ?_, .cons ⟨a, rfl, hfirst⟩ hrest, ?_⟩
      · exact List.pairwise_cons.mpr ⟨by simp, hshifted⟩
      · rintro (_ | i) b ⟨x, hx, hb⟩
        · exact List.mem_cons_self
        · exact List.mem_cons_of_mem 0
            (List.mem_map_of_mem (hcomplete i b ⟨x, by simpa using hx, hb⟩))

theorem enumerated_flatMap {g : α → List β} {within : α → ι → β → Prop} {xs : List α}
    (h : ∀ a ∈ xs, Enumerated before (within a) (g a)) :
    Enumerated (Prod.Lex (· < ·) before)
      (fun (place : Nat × ι) b => ∃ a, xs[place.1]? = some a ∧ within a place.2 b)
      (xs.flatMap g) := by
  induction xs with
  | nil => exact ⟨[], .nil, .nil, by simp⟩
  | cons a rest ih =>
    rw [List.forall_mem_cons] at h
    obtain ⟨first, hordered, hstands, hcomplete⟩ := h.1
    obtain ⟨places, hordered', hstands', hcomplete'⟩ := ih h.2
    let shift : Nat × ι → Nat × ι := fun place => (place.1 + 1, place.2)
    rw [List.flatMap_cons]
    refine ⟨first.map (Prod.mk 0) ++ places.map shift, ?ordered, ?stands, ?complete⟩
    case ordered =>
      refine List.pairwise_append.mpr ⟨?_, ?_, ?_⟩
      · exact List.pairwise_map.mpr (hordered.imp fun h => Prod.Lex.right 0 h)
      · refine List.pairwise_map.mpr (hordered'.imp fun h => ?_)
        rcases Prod.lex_def.mp h with hlt | ⟨heq, hbefore⟩
        · exact Prod.Lex.left _ _ (Nat.succ_lt_succ hlt)
        · exact Prod.lex_def.mpr (.inr ⟨congrArg (· + 1) heq, hbefore⟩)
      · intro x hx y hy
        obtain ⟨_, -, rfl⟩ := List.mem_map.mp hx
        obtain ⟨_, -, rfl⟩ := List.mem_map.mp hy
        exact Prod.Lex.left _ _ (Nat.succ_pos _)
    case stands =>
      refine List.rel_append (List.forall₂_map_left_iff.mpr ?_) (List.forall₂_map_left_iff.mpr ?_)
      · exact hstands.imp fun k b hb => ⟨a, rfl, hb⟩
      · exact hstands'.imp fun place b hb => by simpa [shift] using hb
    case complete =>
      rintro ⟨_ | i, k⟩ b ⟨x, hx, hb⟩
      · cases hx
        exact List.mem_append_left _ (List.mem_map_of_mem (hcomplete k b hb))
      · refine List.mem_append_right _ (List.mem_map.mpr ⟨(i, k), ?_, rfl⟩)
        exact hcomplete' (i, k) b ⟨x, by simpa using hx, hb⟩

theorem Enumerated.congr {stands' : ι → α → Prop} (h : Enumerated before stands items)
    (hiff : ∀ place item, stands place item ↔ stands' place item) :
    Enumerated before stands' items := by
  obtain ⟨places, hordered, hstands, hcomplete⟩ := h
  exact ⟨places, hordered, hstands.imp fun _ _ hb => (hiff _ _).mp hb,
    fun place item hb => hcomplete place item ((hiff place item).mpr hb)⟩

end

-- -----------------------------------------------------------------------------
-- Subjects
-- -----------------------------------------------------------------------------

namespace Scope

/-- Where a subject stands in a manifest: the number of a container or volume,
and in a container the number of a port or variable. -/
@[reducible]
def Place : Scope → Type
  | .pod => Unit
  | .container => Nat
  | .volume => Nat
  | .port => Nat × Nat
  | .env => Nat × Nat

def Before : (s : Scope) → s.Place → s.Place → Prop
  | .pod => fun _ _ => False
  | .container => (· < ·)
  | .volume => (· < ·)
  | .port => Prod.Lex (· < ·) (· < ·)
  | .env => Prod.Lex (· < ·) (· < ·)

/-- A port and a variable stand in the container that they come with. Nothing
stands in a list that is absent. -/
def Stands (pod : Pod) : (s : Scope) → s.Place → s.Subject → Prop
  | .pod, _, _ => True
  | .container, i, c => pod.spec.containers[i]? = some c
  | .volume, i, v => pod.spec.volumes[i]? = some v
  | .port, (i, k), (c, p) =>
    pod.spec.containers[i]? = some c ∧ ∃ ports, c.ports = some ports ∧ ports[k]? = some p
  | .env, (i, k), (c, v) =>
    pod.spec.containers[i]? = some c ∧ ∃ env, c.env = some env ∧ env[k]? = some v

def Names : (s : Scope) → s.Subject → Violation → Prop
  | .pod, _, v => v.container = none ∧ v.volume = none
  | .container, c, v => v.container = some c.name ∧ v.volume = none
  | .volume, w, v => v.container = none ∧ v.volume = some w.name
  | .port, (c, _), v => v.container = some c.name ∧ v.volume = none
  | .env, (c, _), v => v.container = some c.name ∧ v.volume = none

end Scope

section
variable {pod : Pod} {α β : Type}

theorem enumerated_list (xs : List α) :
    Enumerated (· < ·) (fun (i : Nat) a => xs[i]? = some a) xs := by
  have h := enumerated_filterMap some xs
  rw [List.filterMap_some] at h
  exact h.congr fun i a => by simp

theorem enumerated_held (cs : List Container) (part : Container → Option (List β)) :
    Enumerated (Prod.Lex (· < ·) (· < ·))
      (fun (place : Nat × Nat) (held : Container × β) => cs[place.1]? = some held.1 ∧
        ∃ items, part held.1 = some items ∧ items[place.2]? = some held.2)
      (cs.flatMap fun c => ((part c).getD []).map (c, ·)) := by
  have hblock (c : Container) : Enumerated (· < ·)
      (fun (k : Nat) held => c = held.1 ∧ ∃ items, part c = some items ∧ items[k]? = some held.2)
      (((part c).getD []).map (c, ·)) := by
    have h := enumerated_filterMap (fun b => some (c, b)) ((part c).getD [])
    rw [List.filterMap_eq_map'] at h
    refine h.congr fun k held => ?_
    cases part c <;> simp [Prod.ext_iff, and_comm]
  refine (enumerated_flatMap fun c _ => hblock c).congr fun place held => ?_
  constructor
  · rintro ⟨_, hc, rfl, hheld⟩
    exact ⟨hc, hheld⟩
  · rintro ⟨hc, hheld⟩
    exact ⟨held.1, hc, rfl, hheld⟩

theorem Scope.subjects_enumerated (s : Scope) :
    Enumerated s.Before (s.Stands pod) (s.subjects pod) := by
  cases s with
  | pod => exact ⟨[()], List.pairwise_singleton _ _, .cons trivial .nil, by simp⟩
  | container => exact enumerated_list pod.spec.containers
  | volume => exact enumerated_list pod.spec.volumes
  | port => exact enumerated_held pod.spec.containers (·.ports)
  | env => exact enumerated_held pod.spec.containers (·.env)

end

-- -----------------------------------------------------------------------------
-- Sites
-- -----------------------------------------------------------------------------

def Rule.Finds (r : Rule) (pod : Pod) (subject : r.scope.Subject) : Prop :=
  (∃ message, r.check pod subject = .ok (some message)) ∨ ∃ e, r.check pod subject = .error e

/-- A violation tells what a rule finds in a subject. -/
structure Rule.Tells (r : Rule) (pod : Pod) (subject : r.scope.Subject) (v : Violation) :
    Prop where
  finds : r.Finds pod subject
  ruleId : v.ruleId = r.id
  severity : v.severity = r.severity
  category : v.category = r.category
  names : r.scope.Names subject v
  kind : v.kind = .unparsableQuantity ↔ ∃ e, r.check pod subject = .error e
  message : ∀ message, r.check pod subject = .ok (some message) → v.message = message

def Engine.TellsAt (e : Engine) (pod : Pod) (site : Nat × Nat) (v : Violation) : Prop :=
  ∃ r subject, e.activeRules[site.1]? = some r ∧
    (r.scope.subjects pod)[site.2]? = some subject ∧ r.Tells pod subject v

section
variable {r : Rule} {e : Engine} {pod : Pod} {given : Submission} {found : List Violation}

theorem Scope.names_violation {subject : r.scope.Subject} {kind : ViolationKind}
    {message : String} : r.scope.Names subject (r.violation subject kind message) := by
  unfold Rule.violation
  generalize r.scope = s at subject
  cases s <;> exact ⟨rfl, rfl⟩

theorem Rule.judge_tells {subject : r.scope.Subject} {v : Violation}
    (h : r.judge pod subject = some v) : r.Tells pod subject v := by
  unfold judge at h
  split at h
  · cases h
  · rename_i message hcheck
    cases h
    exact ⟨.inl ⟨message, hcheck⟩, rfl, rfl, rfl, Scope.names_violation, by simp [hcheck, violation],
      by simp [hcheck, violation]⟩
  · rename_i err hcheck
    cases h
    exact ⟨.inr ⟨err, hcheck⟩, rfl, rfl, rfl, Scope.names_violation, by simp [hcheck, violation],
      by simp [hcheck]⟩

theorem Rule.judge_of_finds {subject : r.scope.Subject} (h : r.Finds pod subject) :
    ∃ v, r.judge pod subject = some v := by
  refine Option.ne_none_iff_exists'.mp fun hnone => ?_
  rw [judge_none] at hnone
  rcases h with ⟨message, hcheck⟩ | ⟨err, hcheck⟩ <;> rw [hnone] at hcheck <;> cases hcheck

theorem Engine.judge_enumerated (e : Engine) (pod : Pod) : Enumerated (Prod.Lex (· < ·) (· < ·))
    (fun (site : Nat × Nat) v => ∃ r, e.activeRules[site.1]? = some r ∧
      ∃ subject, (r.scope.subjects pod)[site.2]? = some subject ∧ r.judge pod subject = some v)
    (e.judge pod) :=
  enumerated_flatMap fun (r : Rule) _ => enumerated_filterMap (r.judge pod) (r.scope.subjects pod)

theorem assess_judge (hread : given.readPod = .ok (some pod)) (h : e.assess given = .ok found) :
    e.judge pod = found := by
  rw [assess_some hread, mapError_ok, Engine.verdict] at h
  split at h
  · exact Except.ok.inj h
  · cases h

-- -----------------------------------------------------------------------------
-- Unreadable quantities
-- -----------------------------------------------------------------------------

def quantityRuleIds : List String :=
  ["memory-limit-ceiling", "cpu-limit-ceiling", "empty-dir-size-ceiling"]

theorem when_ne_error {holds : Bool} {message : String} {err : Quantity.Error} :
    Finding.when holds message ≠ .error err :=
  nofun

theorem whenAbove_ne_error {ceiling : Int} {n? : Option Int} {message : Int → String}
    {err : Quantity.Error} : Catalog.whenAbove ceiling n? message ≠ .error err := by
  cases n? <;> nofun

theorem catalog_unparsable : ∀ r ∈ catalog, ∀ pod subject err,
    r.check pod subject = .error err → r.id ∈ quantityRuleIds := by
  simp only [catalog, List.forall_mem_cons, List.not_mem_nil, false_implies, implies_true, and_true]
  repeat' apply And.intro
  all_goals intro pod subject err h
  all_goals first
    | exact absurd h when_ne_error
    | exact absurd h whenAbove_ne_error
    | decide

/-- Every violation is accounted for, once and in order: it tells what one rule
finds in one subject, and whatever a rule finds has its violation. -/
theorem assess_attributed (hread : given.readPod = .ok (some pod))
    (hfound : e.assess given = .ok found) :
    (∃ sites : List (Nat × Nat), sites.Pairwise (Prod.Lex (· < ·) (· < ·)) ∧
      List.Forall₂ (e.TellsAt pod) sites found ∧
      ∀ i j r subject, e.activeRules[i]? = some r → (r.scope.subjects pod)[j]? = some subject →
        ((i, j) ∈ sites ↔ r.Finds pod subject)) ∧
    (∀ s : Scope, Enumerated s.Before (s.Stands pod) (s.subjects pod)) ∧
    ((∀ r ∈ e.activeRules, r ∈ catalog) →
      ∀ v ∈ found, v.kind = .unparsableQuantity → v.ruleId ∈ quantityRuleIds) := by
  cases assess_judge hread hfound
  obtain ⟨sites, hordered, hmatched, hcomplete⟩ := e.judge_enumerated pod
  have htells : List.Forall₂ (e.TellsAt pod) sites (e.judge pod) :=
    hmatched.imp fun _ _ ⟨r, hr, subject, hsubject, hjudge⟩ =>
      ⟨r, subject, hr, hsubject, Rule.judge_tells hjudge⟩
  refine ⟨⟨sites, hordered, htells, fun i j r subject hr hsubject => ⟨?found, ?site⟩⟩,
    fun s => s.subjects_enumerated, ?unparsable⟩
  case found =>
    intro hsite
    obtain ⟨v, -, r', subject', hr', hsubject', htell⟩ := forall₂_exists_right htells _ hsite
    cases hr.symm.trans hr'
    cases hsubject.symm.trans hsubject'
    exact htell.finds
  case site =>
    intro hfinds
    obtain ⟨v, hjudge⟩ := Rule.judge_of_finds hfinds
    exact hcomplete (i, j) v ⟨r, hr, subject, hsubject, hjudge⟩
  case unparsable =>
    intro hcatalog v hv hkind
    obtain ⟨site, -, r, subject, hr, -, htell⟩ := forall₂_exists_left htells v hv
    obtain ⟨err, hcheck⟩ := htell.kind.mp hkind
    rw [htell.ruleId]
    exact catalog_unparsable r (hcatalog r (List.mem_of_getElem? hr)) pod subject err hcheck

end

def quotaRules : List Rule :=
  [Catalog.cpuLimitCeiling, Catalog.hostNetwork, Catalog.secretKeyRef]

theorem quotaRules_catalog : ∀ r ∈ quotaRules, r ∈ catalog := by
  simp [quotaRules, catalog]

def twinPod : Value :=
  .record [
    ("kind", .text "Pod"),
    ("spec", .record [
      ("hostNetwork", .bool true),
      ("containers", .list [
        .record [
          ("name", .text "main"),
          ("resources", .record [("limits", .record [("cpu", .text "lots")])]),
          ("env", .list [.record [("name", .text "SECRET_KEY")],
            .record [("name", .text "PATH")]])],
        .record [
          ("name", .text "main"),
          ("resources", .record [("limits", .record [("cpu", .text "3")])]),
          ("env", .null)],
        .record [
          ("name", .text "side"),
          ("env", .list [.record [("name", .text "SECRET_KEY")]])]])])]

def quotaEngine : Engine :=
  Engine.make quotaRules ["host-network"] 1

/-- Four violations. The third of the variables is found to be the third
container's, and nothing is found in the second one. -/
theorem assess_twinPod : ∃ pod found sites,
    (Submission.decoded twinPod).readPod = .ok (some pod) ∧
    quotaEngine.assess (.decoded twinPod) = .ok found ∧
    sites.Pairwise (Prod.Lex (· < ·) (· < ·)) ∧
    List.Forall₂ (quotaEngine.TellsAt pod) sites found ∧
    (1, 2) ∈ sites ∧ (1, 1) ∉ sites ∧
    found.map (fun v => (v.ruleId, v.kind, v.container)) =
      [("cpu-limit-ceiling", .unparsableQuantity, some "main"),
       ("cpu-limit-ceiling", .policy, some "main"), ("secret-key-ref", .policy, some "main"),
       ("secret-key-ref", .policy, some "side")] ∧
    ∀ v ∈ found, v.kind = .unparsableQuantity → v.ruleId ∈ quantityRuleIds := by
  have hread : (Submission.decoded twinPod).readPod = .ok (some _) := rfl
  have hfound : quotaEngine.assess (.decoded twinPod) = .ok _ := rfl
  obtain ⟨⟨sites, hordered, htells, hsites⟩, -, hunparsable⟩ := assess_attributed hread hfound
  refine ⟨_, _, sites, rfl, rfl, hordered, htells, ?_, ?_, rfl, ?_⟩
  · exact (hsites 1 2 Catalog.secretKeyRef _ rfl rfl).mpr (.inl ⟨_, rfl⟩)
  · rw [hsites 1 1 Catalog.secretKeyRef _ rfl rfl]
    rintro (⟨_, h⟩ | ⟨_, h⟩) <;> cases h
  · exact hunparsable fun r hr => quotaRules_catalog r (List.mem_filter.mp hr).1

end PodPolicy
