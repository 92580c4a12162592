import Mathlib.Data.List.Perm.Basic
import PodPolicy.Proofs.Evaluation

/-!
# Containers and volumes on their own

A verdict is made of blocks, one for each active rule. `blocks_composed`: in the
catalog, the block of a rule for containers is put together from those of any
parts of the list of containers, and likewise for volumes; what is left of the
pod has its own block. So to reorder containers and volumes is to reorder each
block in itself.
-/

namespace PodPolicy

-- -----------------------------------------------------------------------------
-- Blocks
-- -----------------------------------------------------------------------------

def Rule.report (r : Rule) (pod : Pod) (subjects : List r.scope.Subject) :
    Except Fault (List Violation) :=
  if subjects.all (r.canTell pod) then .ok (subjects.filterMap (r.judge pod))
  else .error .untellableNumber

def Rule.block (r : Rule) (pod : Pod) : Except Fault (List Violation) :=
  r.report pod (r.scope.subjects pod)

/-- Both fail alike, or both give the same violations, in one order or another. -/
def Reordered {ε : Type} (x y : Except ε (List Violation)) : Prop :=
  (∃ e, x = .error e ∧ y = .error e) ∨ ∃ found found', x = .ok found ∧ y = .ok found' ∧
    found.Perm found'

section
variable {r : Rule} {e : Engine} {pod pod' : Pod} {rules : List Rule}

theorem Rule.block_eq : r.block pod =
    if r.canTellAll pod then .ok (r.violations pod) else .error .untellableNumber :=
  rfl

theorem Rule.report_append (xs ys : List r.scope.Subject) :
    r.report pod (xs ++ ys) = do return (← r.report pod xs) ++ (← r.report pod ys) := by
  simp only [report, List.all_append, List.filterMap_append, Bool.and_eq_true]
  by_cases hxs : xs.all (r.canTell pod) = true
  · by_cases hys : ys.all (r.canTell pod) = true
    · rw [if_pos ⟨hxs, hys⟩, if_pos hxs, if_pos hys]
      rfl
    · rw [if_neg fun h => hys h.2, if_pos hxs, if_neg hys]
      rfl
  · rw [if_neg fun h => hxs h.1, if_neg hxs]
    rfl

theorem Rule.report_perm {xs ys : List r.scope.Subject} (h : xs.Perm ys) :
    Reordered (r.report pod xs) (r.report pod ys) := by
  unfold report
  rw [h.all_eq]
  split
  · exact .inr ⟨_, _, rfl, rfl, h.filterMap (r.judge pod)⟩
  · exact .inl ⟨_, rfl, rfl⟩

theorem Rule.report_map {α : Type} {f g : α → r.scope.Subject}
    (hcheck : ∀ a, r.check pod (f a) = r.check pod' (g a))
    (hfigure : ∀ a, r.figure pod (f a) = r.figure pod' (g a))
    (hviolation : ∀ a, r.violation (f a) = r.violation (g a))
    (hdescribe : ∀ a, r.scope.describe (f a) = r.scope.describe (g a)) (as : List α) :
    r.report pod (as.map f) = r.report pod' (as.map g) := by
  simp only [report, judge, canTell, List.all_map, List.filterMap_map, Function.comp_def, hcheck,
    hfigure, hviolation, hdescribe]

theorem Reordered.refl {ε : Type} (x : Except ε (List Violation)) : Reordered x x := by
  cases x with
  | error e => exact .inl ⟨e, rfl, rfl⟩
  | ok found => exact .inr ⟨found, found, rfl, rfl, List.Perm.refl found⟩

theorem Reordered.mapError {ε ε' : Type} {x y : Except ε (List Violation)} (h : Reordered x y)
    (f : ε → ε') : Reordered (x.mapError f) (y.mapError f) := by
  rcases h with ⟨e, rfl, rfl⟩ | ⟨found, found', rfl, rfl, hperm⟩
  · exact .inl ⟨f e, rfl, rfl⟩
  · exact .inr ⟨found, found', rfl, rfl, hperm⟩

theorem Reordered.join {x x' y y' : Except Fault (List Violation)} (hx : Reordered x x')
    (hy : Reordered y y') :
    Reordered (do return (← x) ++ (← y)) (do return (← x') ++ (← y')) := by
  rcases hx with ⟨f, rfl, rfl⟩ | ⟨found, found', rfl, rfl, hperm⟩
  · exact .inl ⟨f, rfl, rfl⟩
  · rcases hy with ⟨f, rfl, rfl⟩ | ⟨more, more', rfl, rfl, hperm'⟩
    · exact .inl ⟨f, rfl, rfl⟩
    · exact .inr ⟨_, _, rfl, rfl, hperm.append hperm'⟩

def blocks (rules : List Rule) (pod : Pod) : Except Fault (List Violation) := do
  return (← rules.mapM fun r => r.block pod).flatten

theorem blocks_cons : blocks (r :: rules) pod =
    do return (← r.block pod) ++ (← blocks rules pod) := by
  simp only [blocks, List.mapM_cons]
  cases r.block pod with
  | error f => rfl
  | ok first => cases rules.mapM fun r => r.block pod <;> rfl

theorem blocks_eq : blocks rules pod =
    if rules.all (·.canTellAll pod) then .ok (rules.flatMap (·.violations pod))
    else .error .untellableNumber := by
  induction rules with
  | nil => rfl
  | cons r rest ih =>
    rw [blocks_cons, ih, Rule.block_eq, List.all_cons, List.flatMap_cons]
    cases r.canTellAll pod <;> cases rest.all (·.canTellAll pod) <;> rfl

theorem blocks_append {more : List Rule} : blocks (rules ++ more) pod =
    do return (← blocks rules pod) ++ (← blocks more pod) := by
  simp only [blocks_eq, List.all_append, List.flatMap_append]
  cases rules.all (·.canTellAll pod) <;> cases more.all (·.canTellAll pod) <;> rfl

theorem blocks_congr (h : ∀ r ∈ rules, r.block pod = r.block pod') :
    blocks rules pod = blocks rules pod' := by
  induction rules with
  | nil => rfl
  | cons r rest ih =>
    rw [List.forall_mem_cons] at h
    rw [blocks_cons, blocks_cons, h.1, ih h.2]

theorem Engine.verdict_blocks : e.verdict pod = blocks e.activeRules pod :=
  blocks_eq.symm

theorem blocks_reordered (h : ∀ r ∈ rules, Reordered (r.block pod) (r.block pod')) :
    Reordered (blocks rules pod) (blocks rules pod') := by
  induction rules with
  | nil => exact Reordered.refl _
  | cons r rest ih =>
    rw [List.forall_mem_cons] at h
    rw [blocks_cons, blocks_cons]
    exact h.1.join (ih h.2)

end

-- -----------------------------------------------------------------------------
-- Contents of a pod
-- -----------------------------------------------------------------------------

def Pod.holding (pod : Pod) (containers : List Container) (volumes : List Volume) : Pod :=
  { pod with spec := { pod.spec with containers := containers, volumes := volumes } }

/-- A rule that judges a subject alike whatever else the pod holds. -/
def Rule.LooksAtSubject (r : Rule) : Prop :=
  ∀ (pod : Pod) (containers : List Container) (volumes : List Volume) (subject : r.scope.Subject),
    r.check (pod.holding containers volumes) subject = r.check pod subject ∧
      r.figure (pod.holding containers volumes) subject = r.figure pod subject

/-- Whether a scope is of containers or of what is in them. -/
def Scope.isOfContainers : Scope → Bool
  | .container | .port | .env => true
  | .pod | .volume => false

section
variable {r : Rule} {pod : Pod} {cs ds : List Container} {vs ws : List Volume}

theorem Rule.LooksAtSubject.block (h : r.LooksAtSubject) :
    r.block (pod.holding cs vs) = r.report pod (r.scope.subjects (pod.holding cs vs)) := by
  have hjudge (subject) : r.judge (pod.holding cs vs) subject = r.judge pod subject := by
    simp only [judge, (h pod cs vs subject).1]
  have htell (subject) : r.canTell (pod.holding cs vs) subject = r.canTell pod subject := by
    simp only [canTell, (h pod cs vs subject).1, (h pod cs vs subject).2]
  simp only [Rule.block, report, funext hjudge, funext htell]

/-- All rules but one: whether containers are privileged is asked of the pod. -/
theorem catalog_looksAtSubject :
    ∀ r ∈ catalog, r = Catalog.privilegedContainers ∨ r.LooksAtSubject := by
  simp only [catalog, List.forall_mem_cons, List.not_mem_nil, false_implies, implies_true, and_true,
    true_or, true_and]
  repeat' apply And.intro
  all_goals exact .inr fun _ _ _ _ => ⟨rfl, rfl⟩

namespace Scope

variable {s : Scope}

theorem subjects_append_containers (hs : s.isOfContainers) (ws xs : List Volume) :
    s.subjects (pod.holding (cs ++ ds) vs) =
      s.subjects (pod.holding cs ws) ++ s.subjects (pod.holding ds xs) := by
  cases s with
  | container => rfl
  | port => exact List.flatMap_append
  | env => exact List.flatMap_append
  | pod => cases hs
  | volume => cases hs

theorem subjects_append_volumes (hs : s = .volume) (ds es : List Container) :
    s.subjects (pod.holding cs (vs ++ ws)) =
      s.subjects (pod.holding ds vs) ++ s.subjects (pod.holding es ws) := by
  cases hs
  rfl

theorem subjects_pod (hs : s = .pod) : s.subjects (pod.holding cs vs) = s.subjects pod := by
  cases hs
  rfl

theorem subjects_perm (hc : cs.Perm ds) (hv : vs.Perm ws) :
    (s.subjects (pod.holding cs vs)).Perm (s.subjects (pod.holding ds ws)) := by
  cases s with
  | pod => exact List.Perm.refl _
  | container => exact hc
  | volume => exact hv
  | port => exact hc.flatMap_right _
  | env => exact hc.flatMap_right _

end Scope

-- -----------------------------------------------------------------------------
-- Blocks of the catalog
-- -----------------------------------------------------------------------------

open Catalog in
def privilegedViolation : Violation :=
  privilegedContainers.violation () .policy "Privileged containers are not allowed"

theorem violations_privileged : Catalog.privilegedContainers.violations pod =
    if pod.spec.containers.any Catalog.isPrivileged then [privilegedViolation] else [] := by
  cases h : pod.spec.containers.any Catalog.isPrivileged <;>
    simp [Rule.violations, Rule.judge, Catalog.privilegedContainers, Scope.subjects, Finding.when,
      h, privilegedViolation, Rule.violation]

theorem block_privileged : Catalog.privilegedContainers.block (pod.holding cs vs) =
    .ok (if cs.any Catalog.isPrivileged then [privilegedViolation] else []) := by
  have htell : Catalog.privilegedContainers.canTellAll (pod.holding cs vs) = true :=
    Rule.canTellAll_of_figure fun _ _ => rfl
  rw [Rule.block_eq, if_pos htell, violations_privileged]
  rfl

theorem block_append_containers (hr : r ∈ catalog) (hs : r.scope.isOfContainers)
    (ws xs : List Volume) : r.block (pod.holding (cs ++ ds) vs) =
      do return (← r.block (pod.holding cs ws)) ++ (← r.block (pod.holding ds xs)) := by
  rcases catalog_looksAtSubject r hr with rfl | h
  · cases hs
  · rw [h.block, h.block, h.block, Scope.subjects_append_containers hs ws xs, Rule.report_append]

theorem block_append_volumes (hr : r ∈ catalog) (hs : r.scope = .volume)
    (ds es : List Container) : r.block (pod.holding cs (vs ++ ws)) =
      do return (← r.block (pod.holding ds vs)) ++ (← r.block (pod.holding es ws)) := by
  rcases catalog_looksAtSubject r hr with rfl | h
  · cases hs
  · rw [h.block, h.block, h.block, Scope.subjects_append_volumes hs ds es, Rule.report_append]

theorem block_perm (hr : r ∈ catalog) (hc : cs.Perm ds) (hv : vs.Perm ws) :
    Reordered (r.block (pod.holding cs vs)) (r.block (pod.holding ds ws)) := by
  rcases catalog_looksAtSubject r hr with rfl | h
  · rw [block_privileged, block_privileged, hc.any_eq]
    exact Reordered.refl _
  · rw [h.block, h.block]
    exact Rule.report_perm (Scope.subjects_perm hc hv)

/-- Containers and volumes are judged on their own: the block of a rule is put
together from the blocks of parts, and to reorder them is to reorder every block
in itself. Only whether a container is privileged is reported once for all. -/
theorem blocks_composed (pod : Pod) :
    (∀ e : Engine, e.verdict pod = blocks e.activeRules pod) ∧
    (∀ r ∈ catalog, r.scope.isOfContainers → ∀ cs ds vs ws xs,
      r.block (pod.holding (cs ++ ds) vs) =
        do return (← r.block (pod.holding cs ws)) ++ (← r.block (pod.holding ds xs))) ∧
    (∀ r ∈ catalog, r.scope = .volume → ∀ vs ws cs ds es,
      r.block (pod.holding cs (vs ++ ws)) =
        do return (← r.block (pod.holding ds vs)) ++ (← r.block (pod.holding es ws))) ∧
    (∀ cs ds vs ws xs,
      Catalog.privilegedContainers.block (pod.holding cs vs) ∈
        [.ok [], .ok [privilegedViolation]] ∧
      (Catalog.privilegedContainers.block (pod.holding (cs ++ ds) vs) = .ok [privilegedViolation] ↔
        Catalog.privilegedContainers.block (pod.holding cs ws) = .ok [privilegedViolation] ∨
        Catalog.privilegedContainers.block (pod.holding ds xs) = .ok [privilegedViolation])) ∧
    (∀ r ∈ catalog, r.scope = .pod → r.id ≠ "privileged-containers" → ∀ cs vs,
      r.block (pod.holding cs vs) = r.block pod) ∧
    ∀ cs ds vs ws, cs.Perm ds → vs.Perm ws →
      (∀ r ∈ catalog, Reordered (r.block (pod.holding cs vs)) (r.block (pod.holding ds ws))) ∧
      ∀ (e : Engine) (given given' : Submission), (∀ r ∈ e.activeRules, r ∈ catalog) →
        given.readPod = .ok (some (pod.holding cs vs)) →
        given'.readPod = .ok (some (pod.holding ds ws)) →
        Reordered (e.assess given) (e.assess given') := by
  refine ⟨fun e => e.verdict_blocks, ?containers, ?volumes, ?privileged, ?rest, ?perm⟩
  case containers =>
    intro r hr hs cs ds vs ws xs
    exact block_append_containers hr hs ws xs
  case volumes =>
    intro r hr hs vs ws cs ds es
    exact block_append_volumes hr hs ds es
  case privileged =>
    intro cs ds vs ws xs
    simp only [block_privileged, List.any_append, Except.ok.injEq, List.mem_cons]
    cases cs.any Catalog.isPrivileged <;> cases ds.any Catalog.isPrivileged <;> simp
  case rest =>
    intro r hr hs hid cs vs
    rcases catalog_looksAtSubject r hr with rfl | h
    · exact absurd rfl hid
    · rw [h.block, Rule.block, Scope.subjects_pod hs]
  case perm =>
    intro cs ds vs ws hc hv
    refine ⟨fun r hr => block_perm hr hc hv, fun e given given' hrules hread hread' => ?_⟩
    rw [assess_some hread, assess_some hread', Engine.verdict_blocks, Engine.verdict_blocks]
    exact (blocks_reordered fun r hr => block_perm (hrules r hr) hc hv).mapError Unjudged.fault

end

def imageContainer (name image : String) (context : Option SecurityContext) : Container :=
  ⟨name, some image, some "Always", context, none, none, none, none, none, none, none, none⟩

def privilegedContext : SecurityContext :=
  ⟨some true, none, none, none, none, none, none, none⟩

def webContainer : Container := imageContainer "web" "shop:latest" none
def proxyContainer : Container := imageContainer "proxy" "envoy:latest" (some privilegedContext)
def logVolume : Volume := ⟨"logs", some [], none⟩

def emptyPod : Pod := ⟨"Pod", none, {}, {}⟩

def webEntry : Value :=
  .record [("name", .text "web"), ("image", .text "shop:latest"),
    ("imagePullPolicy", .text "Always")]

def proxyEntry : Value :=
  .record [("name", .text "proxy"), ("image", .text "envoy:latest"),
    ("imagePullPolicy", .text "Always"),
    ("securityContext", .record [("privileged", .bool true)])]

def proxiedPod (containers : List Value) : Submission :=
  .decoded (.record [("kind", .text "Pod"), ("spec", .record [
    ("volumes", .list [.record [("name", .text "logs"), ("hostPath", .record [])]]),
    ("containers", .list containers)])])

theorem proxiedPod_read :
    (proxiedPod [webEntry, proxyEntry]).readPod =
      .ok (some (emptyPod.holding ([webContainer] ++ [proxyContainer]) [logVolume])) ∧
    (proxiedPod [proxyEntry, webEntry]).readPod =
      .ok (some (emptyPod.holding [proxyContainer, webContainer] [logVolume])) :=
  ⟨rfl, rfl⟩

theorem mem_catalog {r : Rule} (h : r ∈ [Catalog.latestImageTag, Catalog.hostPathVolume,
    Catalog.seccompProfile]) : r ∈ catalog := by
  simp only [List.mem_cons, List.not_mem_nil, or_false] at h
  rcases h with rfl | rfl | rfl <;> simp [catalog]

/-- Two containers, one way round and the other, and the parts of the first pod. -/
theorem assess_proxiedPod :
    Catalog.latestImageTag.block
        (emptyPod.holding ([webContainer] ++ [proxyContainer]) [logVolume]) =
      (do return (← Catalog.latestImageTag.block (emptyPod.holding [webContainer] [])) ++
        (← Catalog.latestImageTag.block (emptyPod.holding [proxyContainer] []))) ∧
    Catalog.hostPathVolume.block (emptyPod.holding [webContainer] ([logVolume] ++ [])) =
      (do return (← Catalog.hostPathVolume.block (emptyPod.holding [] [logVolume])) ++
        (← Catalog.hostPathVolume.block (emptyPod.holding [proxyContainer] []))) ∧
    Catalog.seccompProfile.block (emptyPod.holding [webContainer] [logVolume]) =
      Catalog.seccompProfile.block emptyPod ∧
    Reordered (Engine.default.assess (proxiedPod [webEntry, proxyEntry]))
      (Engine.default.assess (proxiedPod [proxyEntry, webEntry])) := by
  obtain ⟨-, hcontainers, hvolumes, -, hrest, hperm⟩ := blocks_composed emptyPod
  obtain ⟨hread, hread'⟩ := proxiedPod_read
  have hswap : ([webContainer] ++ [proxyContainer]).Perm [proxyContainer, webContainer] :=
    List.Perm.swap _ _ []
  refine ⟨?_, ?_, ?_, ?_⟩
  · exact hcontainers Catalog.latestImageTag (mem_catalog (by simp)) rfl _ _ _ [] []
  · exact hvolumes Catalog.hostPathVolume (mem_catalog (by simp)) rfl _ _ _ [] [proxyContainer]
  · exact hrest Catalog.seccompProfile (mem_catalog (by simp)) rfl (by decide) _ _
  · exact (hperm _ _ _ _ hswap (List.Perm.refl _)).2 Engine.default _ _
      (fun r hr => by rwa [Engine.default_activeRules] at hr) hread hread'

end PodPolicy
