import Mathlib.Data.List.Perm.Basic
import Mathlib.Logic.Relation
import PodPolicy.Proofs.Blocks
import PodPolicy.Proofs.Independence

/-!
# A pool of workers

Each active rule is a task. The workers take tasks and go through their subjects,
one check at a time and in any order, and the results are gathered in the order
of the rules. `runs_agree`: whatever the schedule, the outcome is that of a
single worker, and so are the warnings, up to the way in which those of different
rules are mixed.

Tasks may be taken in any order, so the queue by which they are handed out is
covered, and so is a single worker that judges the rules one after the other.
A check that cannot tell a number gives no result: its task fails, and tasks
behind it that nobody has taken may be cancelled.
-/

namespace PodPolicy

-- -----------------------------------------------------------------------------
-- Tasks
-- -----------------------------------------------------------------------------

inductive Progress (workers : Nat) (r : Rule)
  | waiting
  | running (worker : Fin workers) (left : List r.scope.Subject) (found : List Violation)
  | finished (found : List Violation)
  | failed (f : Fault)
  | cancelled

structure Task (workers : Nat) where
  rule : Rule
  progress : Progress workers rule

/-- What is gathered from tasks, one after the other: all that they found, or the
first failure. There is nothing yet while a task before that is not over. -/
def gather {workers : Nat} : List (Task workers) → Option (Except Fault (List Violation))
  | [] => some (.ok [])
  | ⟨_, .finished found⟩ :: rest =>
    (gather rest).map fun result => do return found ++ (← result)
  | ⟨_, .failed f⟩ :: _ => some (.error f)
  | _ :: _ => none

section
variable {workers : Nat} {r : Rule} {own found : List Violation} {rest : List (Task workers)}

theorem gather_finished_error {f : Fault} :
    gather (⟨r, .finished own⟩ :: rest) = some (.error f) ↔ gather rest = some (.error f) := by
  rw [gather, Option.map_eq_some_iff]
  constructor
  · rintro ⟨result, hrest, h⟩
    cases result with
    | ok more => cases h
    | error f' => cases h; exact hrest
  · exact fun h => ⟨_, h, rfl⟩

theorem gather_finished_ok : gather (⟨r, .finished own⟩ :: rest) = some (.ok found) ↔
    ∃ more, gather rest = some (.ok more) ∧ own ++ more = found := by
  rw [gather, Option.map_eq_some_iff]
  constructor
  · rintro ⟨result, hrest, h⟩
    cases result with
    | ok more => exact ⟨more, hrest, Except.ok.inj h⟩
    | error f => cases h
  · rintro ⟨more, hrest, rfl⟩
    exact ⟨_, hrest, rfl⟩

end

theorem filterMap_cons_toList {α β : Type} {f : α → Option β} {a : α} {as : List α} :
    (a :: as).filterMap f = (f a).toList ++ as.filterMap f := by
  cases h : f a <;> simp [h]

namespace Progress

variable {workers : Nat} {r : Rule} {pod : Pod} {p p' : Progress workers r}
  {lines logged : List String}

def isOver : Progress workers r → Bool
  | .waiting | .running _ _ _ => false
  | .finished _ | .failed _ | .cancelled => true

def worker? : Progress workers r → Option (Fin workers)
  | .running worker _ _ => some worker
  | .waiting | .finished _ | .failed _ | .cancelled => none

/-- One step of the worker at a task, with the warnings that it logs. -/
inductive Works (pod : Pod) : Progress workers r → List String → Progress workers r → Prop
  | check {worker subject left found} (tells : r.canTell pod subject = true) :
      Works pod (.running worker (subject :: left) found) (r.warn pod subject).toList
        (.running worker left (found ++ (r.judge pod subject).toList))
  | fail {worker subject left found} (untold : r.canTell pod subject = false) :
      Works pod (.running worker (subject :: left) found) [] (.failed .untellableNumber)
  | finish {worker found} : Works pod (.running worker [] found) [] (.finished found)

def Sound (pod : Pod) (logged : List String) : Progress workers r → Prop
  | .waiting | .cancelled => logged = []
  | .running _ left found => ∃ done, r.scope.subjects pod = done ++ left ∧
      r.report pod done = .ok found ∧ logged = done.filterMap (r.warn pod)
  | .finished found => r.block pod = .ok found ∧ logged = r.warnings pod
  | .failed f => r.block pod = .error f ∧ logged <+: r.warnings pod

/-- How many steps a task has before it, at most. -/
def weight (pod : Pod) : Progress workers r → Nat
  | .waiting => (r.scope.subjects pod).length + 2
  | .running _ left _ => left.length + 1
  | .finished _ | .failed _ | .cancelled => 0

theorem Works.sound (h : p.Works pod lines p') (hp : p.Sound pod logged) :
    p'.Sound pod (logged ++ lines) := by
  cases h with
  | @check worker subject left found tells =>
    obtain ⟨done, hsubjects, hreport, rfl⟩ := hp
    refine ⟨done ++ [subject], by simp [hsubjects], ?_, ?_⟩
    · rw [Rule.report_append, hreport, Rule.report]
      cases hjudge : r.judge pod subject <;> simp [tells, hjudge] <;> rfl
    · cases hwarn : r.warn pod subject <;> simp [hwarn]
  | @fail worker subject left found untold =>
    obtain ⟨done, hsubjects, hreport, rfl⟩ := hp
    constructor
    · rw [Rule.block, hsubjects, Rule.report_append, hreport, Rule.report]
      simp [untold]
      rfl
    · rw [Rule.warnings, hsubjects, List.filterMap_append, List.append_nil]
      exact List.prefix_append _ _
  | finish =>
    obtain ⟨done, hsubjects, hreport, rfl⟩ := hp
    rw [List.append_nil] at hsubjects
    constructor
    · rw [Rule.block, hsubjects, hreport]
    · rw [List.append_nil, Rule.warnings, hsubjects]

theorem Works.weight_lt (h : p.Works pod lines p') : p'.weight pod < p.weight pod := by
  cases h <;> simp [weight]

theorem Works.ne_cancelled (h : p.Works pod lines p') : p' ≠ .cancelled := by
  cases h <;> nofun

theorem Works.not_over (h : p.Works pod lines p') : p.isOver = false := by
  cases h <;> rfl

theorem worker?_none (h : p.isOver) : p.worker? = none := by
  cases p with
  | running worker left found => cases h
  | _ => rfl

theorem exists_works (pod : Pod) (worker : Fin workers) (left : List r.scope.Subject)
    (found : List Violation) :
    ∃ lines p', (running worker left found).Works pod lines p' := by
  cases left with
  | nil => exact ⟨_, _, .finish⟩
  | cons subject left =>
    cases h : r.canTell pod subject with
    | true => exact ⟨_, _, .check h⟩
    | false => exact ⟨_, _, .fail h⟩

end Progress

-- -----------------------------------------------------------------------------
-- Pools
-- -----------------------------------------------------------------------------

/-- The tasks in the order of their rules, and the log: each warning stands with
the position of its task. -/
structure Pool (workers : Nat) where
  tasks : List (Task workers)
  log : List (Nat × String)

def linesOf (i : Nat) (log : List (Nat × String)) : List String :=
  (log.filter fun entry => entry.1 = i).map Prod.snd

namespace Pool

def start (workers : Nat) (rules : List Rule) : Pool workers :=
  ⟨rules.map fun r => ⟨r, .waiting⟩, []⟩

section
variable {workers : Nat}

def put (s : Pool workers) (i : Nat) (t : Task workers) (lines : List String) : Pool workers :=
  ⟨s.tasks.set i t, s.log ++ lines.map (i, ·)⟩

def IsIdle (s : Pool workers) (worker : Fin workers) : Prop :=
  ∀ t ∈ s.tasks, t.progress.worker? ≠ some worker

instance (s : Pool workers) (worker : Fin workers) : Decidable (s.IsIdle worker) :=
  inferInstanceAs (Decidable (∀ t ∈ s.tasks, _))

/-- Whether gathering ends before a position, at a task that has failed. -/
def FailsBefore (s : Pool workers) (i : Nat) : Prop :=
  ∃ f, gather (s.tasks.take i) = some (.error f)

inductive Step (pod : Pod) (s : Pool workers) : Pool workers → Prop
  | take {i r worker} (waits : s.tasks[i]? = some ⟨r, .waiting⟩) (idle : s.IsIdle worker) :
      Step pod s (s.put i ⟨r, .running worker (r.scope.subjects pod) []⟩ [])
  | work {i r p lines p'} (taken : s.tasks[i]? = some ⟨r, p⟩) (works : p.Works pod lines p') :
      Step pod s (s.put i ⟨r, p'⟩ lines)
  | cancel {i r} (waits : s.tasks[i]? = some ⟨r, .waiting⟩) (fails : s.FailsBefore i) :
      Step pod s (s.put i ⟨r, .cancelled⟩ [])

abbrev Reaches (pod : Pod) : Pool workers → Pool workers → Prop :=
  Relation.ReflTransGen (Step pod)

def IsSettled (s : Pool workers) : Prop :=
  ∀ t ∈ s.tasks, t.progress.isOver

instance (s : Pool workers) : Decidable s.IsSettled :=
  inferInstanceAs (Decidable (∀ t ∈ s.tasks, _))

structure Sound (pod : Pod) (rules : List Rule) (s : Pool workers) : Prop where
  rules : s.tasks.map Task.rule = rules
  tasks : ∀ (i : Nat) (t : Task workers), s.tasks[i]? = some t →
    t.progress.Sound pod (linesOf i s.log)
  logged : ∀ entry ∈ s.log, entry.1 < s.tasks.length
  cancelled : ∀ (i : Nat) (t : Task workers), s.tasks[i]? = some t →
    t.progress = .cancelled → s.FailsBefore i

end

-- -----------------------------------------------------------------------------
-- One step
-- -----------------------------------------------------------------------------

section
variable {workers : Nat} {pod : Pod} {rules : List Rule} {s s' : Pool workers} {r : Rule}
  {i j : Nat} {t : Task workers} {p p' : Progress workers r} {lines : List String}

/-- What every step does: one task that is not over moves on and nears its end,
and is sound if it was. It is cancelled only behind a failure. -/
theorem Step.moves (h : Step pod s s') : ∃ (i : Nat) (r : Rule) (p p' : Progress workers r)
    (lines : List String), s.tasks[i]? = some ⟨r, p⟩ ∧ s' = s.put i ⟨r, p'⟩ lines ∧
      p.isOver = false ∧ p'.weight pod < p.weight pod ∧
      (∀ logged, p.Sound pod logged → p'.Sound pod (logged ++ lines)) ∧
      (p' = .cancelled → s.FailsBefore i) := by
  cases h with
  | @take i r worker waits idle =>
    refine ⟨i, r, _, _, _, waits, rfl, rfl, by simp [Progress.weight], ?_, nofun⟩
    rintro logged rfl
    exact ⟨[], rfl, rfl, rfl⟩
  | @work i r p lines p' taken works =>
    exact ⟨i, r, _, _, _, taken, rfl, works.not_over, works.weight_lt,
      fun _ hp => works.sound hp, fun h => absurd h works.ne_cancelled⟩
  | @cancel i r waits fails =>
    refine ⟨i, r, _, _, _, waits, rfl, rfl, by simp [Progress.weight], ?_, fun _ => fails⟩
    rintro logged rfl
    rfl

theorem linesOf_put_same : linesOf i (s.put i t lines).log = linesOf i s.log ++ lines := by
  simp [linesOf, put, List.filter_map, Function.comp_def]

theorem linesOf_put_other (h : j ≠ i) :
    linesOf j (s.put i t lines).log = linesOf j s.log := by
  simp [linesOf, put, List.filter_map, Function.comp_def, h.symm]

/-- What has been gathered up to a failure does not depend on a task that is not
over, since there is none before it. -/
theorem gather_set {f : Fault} {tasks : List (Task workers)} (h : gather tasks = some (.error f))
    (hi : tasks[i]? = some t) (hover : t.progress.isOver = false) (t' : Task workers) :
    gather (tasks.set i t') = some (.error f) := by
  induction tasks generalizing i with
  | nil => cases hi
  | cons first rest ih =>
    obtain ⟨r, p⟩ := first
    cases p with
    | finished found =>
      cases i with
      | zero =>
        cases hi
        cases hover
      | succ i =>
        rw [List.set_cons_succ, gather_finished_error]
        exact ih (gather_finished_error.mp h) hi
    | failed f' =>
      cases i with
      | zero =>
        cases hi
        cases hover
      | succ i => exact h
    | waiting => cases h
    | running worker left found => cases h
    | cancelled => cases h

theorem FailsBefore.put (h : s.FailsBefore j) (hi : s.tasks[i]? = some t)
    (hover : t.progress.isOver = false) (t' : Task workers) :
    (s.put i t' lines).FailsBefore j := by
  obtain ⟨f, h⟩ := h
  refine ⟨f, ?_⟩
  rw [Pool.put, List.take_set]
  by_cases hij : i < j
  · exact gather_set h (by rw [List.getElem?_take_of_lt hij, hi]) hover t'
  · rwa [List.set_eq_of_length_le (by rw [List.length_take]; omega)]

theorem sound_start : (start workers rules).Sound pod rules where
  rules := by simp [start, Function.comp_def]
  tasks := by
    intro i t ht
    simp only [start, List.getElem?_map, Option.map_eq_some_iff] at ht
    obtain ⟨r, -, rfl⟩ := ht
    rfl
  logged := by simp [start]
  cancelled := by
    intro i t ht hcancelled
    simp only [start, List.getElem?_map, Option.map_eq_some_iff] at ht
    obtain ⟨r, -, rfl⟩ := ht
    cases hcancelled

theorem Sound.step (h : s.Sound pod rules) (hstep : Step pod s s') : s'.Sound pod rules := by
  obtain ⟨i, r, p, p', lines, hi, rfl, hover, -, hsound, hfails⟩ := hstep.moves
  have hlt : i < s.tasks.length := (List.getElem?_eq_some_iff.mp hi).1
  constructor
  case rules =>
    have hrule : (s.tasks.map Task.rule)[i]? = some r := by rw [List.getElem?_map, hi]; rfl
    obtain ⟨hbound, hrule⟩ := List.getElem?_eq_some_iff.mp hrule
    calc (s.tasks.set i ⟨r, p'⟩).map Task.rule
      _ = (s.tasks.map Task.rule).set i r := List.map_set
      _ = s.tasks.map Task.rule := by conv => lhs; rw [← hrule, List.set_getElem_self hbound]
      _ = rules := h.rules
  case tasks =>
    intro j t hj
    by_cases hij : j = i
    · subst hij
      rw [put, List.getElem?_set_self hlt] at hj
      cases hj
      rw [linesOf_put_same]
      exact hsound _ (h.tasks j _ hi)
    · rw [put, List.getElem?_set_ne (Ne.symm hij)] at hj
      rw [linesOf_put_other hij]
      exact h.tasks j t hj
  case logged =>
    intro entry hentry
    rw [put, List.length_set]
    rcases List.mem_append.mp hentry with hold | hnew
    · exact h.logged entry hold
    · obtain ⟨line, -, rfl⟩ := List.mem_map.mp hnew
      exact hlt
  case cancelled =>
    -- The failure stays where it is, since the task that moves was not over.
    intro j t hj hcancelled
    by_cases hij : j = i
    · subst hij
      rw [put, List.getElem?_set_self hlt] at hj
      cases hj
      exact (hfails hcancelled).put hi hover _
    · rw [put, List.getElem?_set_ne (Ne.symm hij)] at hj
      exact (h.cancelled j t hj hcancelled).put hi hover _

theorem Reaches.sound (h : Reaches pod (start workers rules) s) : s.Sound pod rules := by
  induction h with
  | refl => exact sound_start
  | tail _ hstep ih => exact ih.step hstep

-- -----------------------------------------------------------------------------
-- Results
-- -----------------------------------------------------------------------------

theorem gather_settled {tasks : List (Task workers)} (hover : ∀ t ∈ tasks, t.progress.isOver)
    (hsound : ∀ t ∈ tasks, ∃ logged, t.progress.Sound pod logged)
    (hcancelled : ∀ (i : Nat) (t : Task workers), tasks[i]? = some t →
      t.progress = .cancelled → ∃ f, gather (tasks.take i) = some (.error f)) :
    gather tasks = some (blocks (tasks.map Task.rule) pod) := by
  induction tasks with
  | nil => rfl
  | cons first rest ih =>
    obtain ⟨r, p⟩ := first
    obtain ⟨⟨logged, hp⟩, hrestSound⟩ := List.forall_mem_cons.mp hsound
    obtain ⟨hfirst, hrestOver⟩ := List.forall_mem_cons.mp hover
    rw [List.map_cons, blocks_cons]
    cases p with
    | finished found =>
      have hrest : ∀ (i : Nat) (t : Task workers), rest[i]? = some t →
          t.progress = .cancelled → ∃ f, gather (rest.take i) = some (.error f) := by
        intro i t ht hprogress
        obtain ⟨f, h⟩ := hcancelled (i + 1) t ht hprogress
        exact ⟨f, gather_finished_error.mp h⟩
      rw [gather, ih hrestOver hrestSound hrest, hp.1]
      rfl
    | failed f =>
      rw [gather, hp.1]
      rfl
    | cancelled =>
      -- A cancelled task is behind a failure, so gathering does not come to it.
      obtain ⟨f, h⟩ := hcancelled 0 _ rfl rfl
      cases h
    | waiting => cases hfirst
    | running worker left found => cases hfirst

theorem gather_ok {tasks : List (Task workers)} {found : List Violation}
    (h : gather tasks = some (.ok found)) :
    ∀ t ∈ tasks, ∃ found, t.progress = .finished found := by
  induction tasks generalizing found with
  | nil => simp
  | cons first rest ih =>
    obtain ⟨r, p⟩ := first
    cases p with
    | finished own =>
      obtain ⟨more, hmore, -⟩ := gather_finished_ok.mp h
      exact List.forall_mem_cons.mpr ⟨⟨own, rfl⟩, ih hmore⟩
    | failed f => cases h
    | waiting => cases h
    | running worker left found => cases h
    | cancelled => cases h

/-- Whatever the schedule, what is gathered at its end are the blocks of the rules. -/
theorem Sound.gather (h : s.Sound pod rules) (hsettled : s.IsSettled) :
    gather s.tasks = some (blocks rules pod) := by
  rw [← h.rules]
  refine gather_settled hsettled (fun t ht => ?_) h.cancelled
  obtain ⟨i, hi⟩ := List.mem_iff_getElem?.mp ht
  exact ⟨_, h.tasks i t hi⟩

theorem Sound.rule (h : s.Sound pod rules) (hr : rules[i]? = some r) :
    ∃ t : Task workers, s.tasks[i]? = some t ∧ t.rule = r := by
  rw [← h.rules, List.getElem?_map, Option.map_eq_some_iff] at hr
  exact hr

theorem Sound.linesOf_prefix (h : s.Sound pod rules) (hr : rules[i]? = some r) :
    linesOf i s.log <+: r.warnings pod := by
  obtain ⟨⟨r, p⟩, ht, rfl⟩ := h.rule hr
  have hp := h.tasks i _ ht
  cases p with
  | waiting => rw [hp]; exact List.nil_prefix
  | cancelled => rw [hp]; exact List.nil_prefix
  | running worker left found =>
    obtain ⟨done, hsubjects, -, hlines⟩ := hp
    rw [hlines, Rule.warnings, hsubjects, List.filterMap_append]
    exact List.prefix_append _ _
  | finished found => exact ⟨[], by rw [hp.2, List.append_nil]⟩
  | failed f => exact hp.2

theorem Sound.linesOf_eq {found : List Violation} (h : s.Sound pod rules)
    (hgather : PodPolicy.gather s.tasks = some (.ok found)) (hr : rules[i]? = some r) :
    linesOf i s.log = r.warnings pod := by
  obtain ⟨t, ht, rfl⟩ := h.rule hr
  obtain ⟨own, hown⟩ := gather_ok hgather t (List.mem_of_getElem? ht)
  have hp := h.tasks i t ht
  rw [hown] at hp
  exact hp.2

open scoped List in
theorem log_perm {n : Nat} {log : List (Nat × String)} (h : ∀ entry ∈ log, entry.1 < n) :
    (log.map Prod.snd).Perm ((List.range n).flatMap fun i => linesOf i log) := by
  induction n generalizing log with
  | zero =>
    have hnil : log = [] := List.eq_nil_iff_forall_not_mem.mpr fun entry hentry =>
      Nat.not_lt_zero _ (h entry hentry)
    rw [hnil]
    rfl
  | succ n ih =>
    -- The entries of the last task are taken out of the log.
    let others := log.filter fun entry => !decide (entry.1 = n)
    have hothers : ∀ entry ∈ others, entry.1 < n := by
      intro entry hentry
      obtain ⟨hentry, hother⟩ := List.mem_filter.mp hentry
      have hne : entry.1 ≠ n := by simpa using hother
      exact Nat.lt_of_le_of_ne (Nat.le_of_lt_succ (h entry hentry)) hne
    have hlines : ∀ i ∈ List.range n, linesOf i others = linesOf i log := by
      intro i hi
      have hne : i ≠ n := Nat.ne_of_lt (List.mem_range.mp hi)
      simp only [linesOf, others, List.filter_filter]
      congr 1
      refine List.filter_congr fun entry _ => ?_
      by_cases hentry : entry.1 = i <;> simp [hentry, hne]
    rw [List.range_succ, List.flatMap_append, List.flatMap_singleton]
    calc log.map Prod.snd
      _ ~ (log.filter (fun entry => entry.1 = n) ++ others).map Prod.snd :=
        (List.filter_append_perm (fun entry => decide (entry.1 = n)) log).symm.map _
      _ ~ others.map Prod.snd ++ linesOf n log := by
        rw [List.map_append]
        exact List.perm_append_comm
      _ ~ (List.range n).flatMap (fun i => linesOf i others) ++ linesOf n log :=
        (ih hothers).append_right _
      _ = (List.range n).flatMap (fun i => linesOf i log) ++ linesOf n log := by
        rw [List.flatMap_congr hlines]

theorem Sound.log_perm {found : List Violation} (h : s.Sound pod rules)
    (hgather : PodPolicy.gather s.tasks = some (.ok found)) :
    (s.log.map Prod.snd).Perm (rules.flatMap fun r => r.warnings pod) := by
  have hlength : s.tasks.length = rules.length := by rw [← h.rules, List.length_map]
  have hlines : (List.range rules.length).map (fun i => linesOf i s.log) =
      rules.map fun r => r.warnings pod := by
    refine List.ext_getElem (by simp) fun i hi hi' => ?_
    rw [List.length_map] at hi'
    rw [List.getElem_map, List.getElem_range, List.getElem_map]
    exact h.linesOf_eq hgather (List.getElem?_eq_getElem hi')
  rw [List.flatMap_def, ← hlines, ← List.flatMap_def, ← hlength]
  exact Pool.log_perm h.logged

-- -----------------------------------------------------------------------------
-- Schedules come to an end
-- -----------------------------------------------------------------------------

def weight (pod : Pod) : List (Task workers) → Nat
  | [] => 0
  | t :: rest => t.progress.weight pod + weight pod rest

theorem weight_set_lt {tasks : List (Task workers)} {t' : Task workers} (hi : tasks[i]? = some t)
    (h : t'.progress.weight pod < t.progress.weight pod) :
    weight pod (tasks.set i t') < weight pod tasks := by
  induction tasks generalizing i with
  | nil => cases hi
  | cons first rest ih =>
    cases i with
    | zero =>
      cases hi
      exact Nat.add_lt_add_right h _
    | succ i => exact Nat.add_lt_add_left (ih hi) _

theorem Step.weight_lt (h : Step pod s s') : weight pod s'.tasks < weight pod s.tasks := by
  obtain ⟨i, r, p, p', lines, hi, rfl, -, hlt, -, -⟩ := h.moves
  exact weight_set_lt hi hlt

theorem exists_step (pod : Pod) (hworkers : 0 < workers) (h : ¬ s.IsSettled) :
    ∃ s', Step pod s s' := by
  -- Either the first worker can take whatever waits, or it is at a task and goes on there.
  by_cases hidle : s.IsIdle ⟨0, hworkers⟩
  · simp only [IsSettled, not_forall] at h
    obtain ⟨⟨r, p⟩, ht, hover⟩ := h
    obtain ⟨i, hi⟩ := List.mem_iff_getElem?.mp ht
    cases p with
    | waiting => exact ⟨_, .take hi hidle⟩
    | running worker left found =>
      obtain ⟨lines, p', works⟩ := Progress.exists_works pod worker left found
      exact ⟨_, .work hi works⟩
    | finished found => exact absurd rfl hover
    | failed f => exact absurd rfl hover
    | cancelled => exact absurd rfl hover
  · simp only [IsIdle, not_forall, not_not] at hidle
    obtain ⟨⟨r, p⟩, ht, hworker⟩ := hidle
    obtain ⟨i, hi⟩ := List.mem_iff_getElem?.mp ht
    cases p with
    | running worker left found =>
      obtain ⟨lines, p', works⟩ := Progress.exists_works pod worker left found
      exact ⟨_, .work hi works⟩
    | waiting => cases hworker
    | finished found => cases hworker
    | failed f => cases hworker
    | cancelled => cases hworker

theorem step_wellFounded (pod : Pod) : WellFounded fun s' s : Pool workers => Step pod s s' :=
  Subrelation.wf (fun h => h.weight_lt) (measure fun s : Pool workers => weight pod s.tasks).wf

theorem exists_settled (pod : Pod) (hworkers : 0 < workers) (s : Pool workers) :
    ∃ s', Reaches pod s s' ∧ s'.IsSettled := by
  induction s using (step_wellFounded pod).induction with
  | _ s ih =>
    by_cases hsettled : s.IsSettled
    · exact ⟨s, .refl, hsettled⟩
    · obtain ⟨next, hstep⟩ := exists_step pod hworkers hsettled
      obtain ⟨s', hreaches, hsettled'⟩ := ih next hstep
      exact ⟨s', .head hstep hreaches, hsettled'⟩

-- -----------------------------------------------------------------------------
-- The schedule of one worker
-- -----------------------------------------------------------------------------

variable {before after : List (Task workers)} {log : List (Nat × String)}

theorem put_append {t' : Task workers} :
    put ⟨before ++ t :: after, log⟩ before.length t' lines =
      ⟨before ++ t' :: after, log ++ lines.map (before.length, ·)⟩ := by
  simp [put]

theorem Step.take_append {worker : Fin workers}
    (idle : IsIdle ⟨before ++ ⟨r, .waiting⟩ :: after, log⟩ worker) :
    Step pod ⟨before ++ ⟨r, .waiting⟩ :: after, log⟩
      ⟨before ++ ⟨r, .running worker (r.scope.subjects pod) []⟩ :: after, log⟩ := by
  have hwaits : (before ++ (⟨r, .waiting⟩ : Task workers) :: after)[before.length]? =
      some ⟨r, .waiting⟩ := by simp
  have hstep : Step pod _ _ := .take hwaits idle
  rwa [put_append, List.map_nil, List.append_nil] at hstep

theorem Step.work_append (works : p.Works pod lines p') :
    Step pod ⟨before ++ ⟨r, p⟩ :: after, log⟩
      ⟨before ++ ⟨r, p'⟩ :: after, log ++ lines.map (before.length, ·)⟩ := by
  rw [← put_append (t := ⟨r, p⟩)]
  exact .work (by simp) works

theorem reaches_finished {worker : Fin workers} {left : List r.scope.Subject}
    {found : List Violation} (htells : left.all (r.canTell pod) = true) :
    Reaches pod ⟨before ++ ⟨r, .running worker left found⟩ :: after, log⟩
      ⟨before ++ ⟨r, .finished (found ++ left.filterMap (r.judge pod))⟩ :: after,
        log ++ (left.filterMap (r.warn pod)).map (before.length, ·)⟩ := by
  induction left generalizing found log with
  | nil =>
    rw [List.filterMap_nil, List.append_nil]
    exact .single (.work_append .finish)
  | cons subject left ih =>
    rw [List.all_cons, Bool.and_eq_true] at htells
    refine .head (.work_append (.check htells.1)) ?_
    rw [filterMap_cons_toList, filterMap_cons_toList, List.map_append, ← List.append_assoc,
      ← List.append_assoc]
    exact ih htells.2

theorem isIdle_append_start (worker : Fin workers) (hbefore : ∀ t ∈ before, t.progress.isOver) :
    IsIdle ⟨before ++ (start workers rules).tasks, log⟩ worker := by
  intro t ht hworker
  rcases List.mem_append.mp ht with hdone | hwaiting
  · cases hworker.symm.trans (Progress.worker?_none (hbefore t hdone))
  · obtain ⟨_, -, rfl⟩ := List.mem_map.mp hwaiting
    cases hworker

theorem reaches_inOrder (worker : Fin workers) (before : List (Task workers))
    (log : List (Nat × String)) {rules : List Rule} (hbefore : ∀ t ∈ before, t.progress.isOver)
    (htells : rules.all (·.canTellAll pod) = true) :
    ∃ s : Pool workers, s.IsSettled ∧
      Reaches pod ⟨before ++ (start workers rules).tasks, log⟩ s ∧
      s.log.map Prod.snd = log.map Prod.snd ++ rules.flatMap fun r => r.warnings pod := by
  induction rules generalizing before log with
  | nil => exact ⟨_, by simpa [IsSettled, start] using hbefore, .refl, by simp⟩
  | cons r rest ih =>
    rw [List.all_cons, Bool.and_eq_true] at htells
    let finished : Task workers := ⟨r, .finished (r.violations pod)⟩
    have hover : ∀ t ∈ before ++ [finished], t.progress.isOver := by
      simpa [or_imp, forall_and, finished, Progress.isOver] using hbefore
    obtain ⟨s, hsettled, hreaches, hlog⟩ :=
      ih _ (log ++ (r.warnings pod).map (before.length, ·)) hover htells.2
    refine ⟨s, hsettled, ?_, ?_⟩
    · have hidle : IsIdle ⟨before ++ (start workers (r :: rest)).tasks, log⟩ worker :=
        isIdle_append_start worker hbefore
      refine .head (.take_append hidle) ?_
      refine (reaches_finished htells.1).trans ?_
      simpa [Rule.violations, Rule.warnings, finished, start] using hreaches
    · rw [hlog]
      simp [Function.comp_def]

end

end Pool

-- -----------------------------------------------------------------------------
-- Runs of an engine
-- -----------------------------------------------------------------------------

/-- What may come out of an engine at a submission, and what it logs: the pod, if
there is one, is judged by a pool of the workers of the engine. -/
inductive Engine.Runs (e : Engine) (given : Submission) : Assessment → List (Nat × String) → Prop
  | refused {s} (read : given.readPod = .error s) : e.Runs given (.error (.shape s)) []
  | podless (read : given.readPod = .ok none) : e.Runs given (.ok []) []
  | judged {pod} {s : Pool e.workers.toNat} {result} (read : given.readPod = .ok (some pod))
      (reaches : Pool.Reaches pod (Pool.start _ e.activeRules) s) (settled : s.IsSettled)
      (gathered : gather s.tasks = some result) :
      e.Runs given (result.mapError .fault) s.log

section
variable {e : Engine} {given : Submission} {outcome : Assessment} {log : List (Nat × String)}
  {pod : Pod}

theorem Engine.exists_runs (hworkers : 0 < e.workers) :
    ∃ outcome log, e.Runs given outcome log := by
  cases hread : given.readPod with
  | error s => exact ⟨_, _, .refused hread⟩
  | ok pod? =>
    cases pod? with
    | none => exact ⟨_, _, .podless hread⟩
    | some pod =>
      obtain ⟨s, hreaches, hsettled⟩ := Pool.exists_settled pod
        (show 0 < e.workers.toNat by omega) (Pool.start _ e.activeRules)
      exact ⟨_, _, .judged hread hreaches hsettled (hreaches.sound.gather hsettled)⟩

theorem Engine.runs_inOrder {found : List Violation} (hworkers : 0 < e.workers)
    (hread : given.readPod = .ok (some pod)) (hfound : e.assess given = .ok found) :
    ∃ log, e.Runs given (.ok found) log ∧ log.map Prod.snd = e.judgeWarnings pod := by
  have htells : e.activeRules.all (·.canTellAll pod) = true := by
    by_contra hnot
    rw [assess_some hread, Engine.verdict, Engine.canTell, if_neg hnot] at hfound
    cases hfound
  obtain ⟨s, hsettled, hreaches, hlog⟩ := Pool.reaches_inOrder
    (⟨0, by omega⟩ : Fin e.workers.toNat) [] [] (by simp) htells
  have hruns := Engine.Runs.judged hread hreaches hsettled (hreaches.sound.gather hsettled)
  rw [← Engine.verdict_blocks, ← assess_some hread, hfound] at hruns
  exact ⟨s.log, hruns, hlog⟩

theorem Engine.Runs.assess (h : e.Runs given outcome log) : outcome = e.assess given := by
  cases h with
  | refused hread => exact (assess_error hread).symm
  | podless hread => exact (assess_none hread).symm
  | judged hread reaches settled gathered =>
    have hresult := reaches.sound.gather settled
    cases gathered.symm.trans hresult
    rw [assess_some hread, Engine.verdict_blocks]

theorem Engine.Runs.log_nil (h : e.Runs given outcome log)
    (hread : ∀ pod, given.readPod ≠ .ok (some pod)) : log = [] := by
  cases h with
  | refused => rfl
  | podless => rfl
  | judged hpod => exact absurd hpod (hread _)

theorem Engine.Runs.sound (h : e.Runs given outcome log) (hread : given.readPod = .ok (some pod)) :
    ∃ s : Pool e.workers.toNat, s.Sound pod e.activeRules ∧ s.log = log ∧
      ∀ found, outcome = .ok found → gather s.tasks = some (.ok found) := by
  cases h with
  | refused hother => cases hread.symm.trans hother
  | podless hother => cases hread.symm.trans hother
  | judged hpod reaches settled gathered =>
    cases hread.symm.trans hpod
    exact ⟨_, reaches.sound, rfl, fun found hfound => by rw [gathered, mapError_ok.mp hfound]⟩

theorem assess_workers {rules : List Rule} {disabled : List String} (m n : Int) :
    (Engine.make rules disabled m).assess given = (Engine.make rules disabled n).assess given := by
  cases given <;> rfl

/-- A pool of workers judges as one worker does, under every schedule. Where the
judgement comes to an end, each rule logs its warnings in their order, and all
that is logged is what one worker logs, in one order or another. Where a number
cannot be told, a rule may have logged only the first of its warnings. -/
theorem runs_agree (rules : List Rule) (disabled : List String) (n : Int) (given : Submission) :
    (∃ outcome log, (Engine.make rules disabled n).Runs given outcome log) ∧
    (∀ pod found, given.readPod = .ok (some pod) →
      (Engine.make rules disabled 1).assess given = .ok found →
      ∃ log, (Engine.make rules disabled n).Runs given (.ok found) log ∧
        log.map Prod.snd = (Engine.make rules disabled 1).judgeWarnings pod) ∧
    ∀ outcome log, (Engine.make rules disabled n).Runs given outcome log →
      outcome = (Engine.make rules disabled 1).assess given ∧
      ((∀ pod, given.readPod ≠ .ok (some pod)) → log = []) ∧
      ∀ pod, given.readPod = .ok (some pod) →
        (∀ i r, (Engine.make rules disabled 1).activeRules[i]? = some r →
          linesOf i log <+: r.warnings pod) ∧
        ∀ found, outcome = .ok found →
          (log.map Prod.snd).Perm ((Engine.make rules disabled 1).judgeWarnings pod) ∧
          ∀ i r, (Engine.make rules disabled 1).activeRules[i]? = some r →
            linesOf i log = r.warnings pod := by
  have hworkers : 0 < (Engine.make rules disabled n).workers := by
    simp only [Engine.make]
    omega
  refine ⟨Engine.exists_runs hworkers, ?inOrder, fun outcome log hruns => ⟨?same, ?quiet, ?logged⟩⟩
  case inOrder =>
    intro pod found hread hfound
    rw [assess_workers 1 n] at hfound
    exact Engine.runs_inOrder hworkers hread hfound
  case same => rw [hruns.assess, assess_workers n 1]
  case quiet => exact hruns.log_nil
  case logged =>
    intro pod hread
    obtain ⟨s, hsound, rfl, hgather⟩ := hruns.sound hread
    refine ⟨fun i r hr => hsound.linesOf_prefix hr, fun found hfound => ⟨?perm, ?order⟩⟩
    case perm => exact hsound.log_perm (hgather found hfound)
    case order => exact fun i r hr => hsound.linesOf_eq (hgather found hfound) hr

end

-- -----------------------------------------------------------------------------
-- Two workers
-- -----------------------------------------------------------------------------

def greedyContainer (name : String) : Container where
  name := name
  image := some "shop"
  imagePullPolicy := none
  securityContext := none
  resources := some ⟨some [("memory", "plenty"), ("cpu", "lots")], none⟩
  ports := none
  env := none
  livenessProbe := none
  readinessProbe := none
  startupProbe := none
  lifecycle := none
  volumeMounts := none

def greedyPod : Pod :=
  emptyPod.holding [greedyContainer "web", greedyContainer "proxy"] []

def greedyEntry (name : String) : Value :=
  .record [("name", .text name), ("image", .text "shop"), ("resources", .record [("limits",
    .record [("memory", .text "plenty"), ("cpu", .text "lots")])])]

def greedyManifest : Value :=
  .record [("kind", .text "Pod"), ("spec", .record [
    ("containers", .list [greedyEntry "web", greedyEntry "proxy"])])]

def pairEngine (workers : Int) : Engine :=
  Engine.make [Catalog.memoryLimitCeiling, Catalog.cpuLimitCeiling] [] workers

open Pool Catalog in
theorem pairEngine_reaches : ∃ s : Pool 2,
    Pool.Reaches greedyPod (Pool.start 2 [memoryLimitCeiling, cpuLimitCeiling]) s ∧
      s.IsSettled ∧ s.log.map Prod.fst = [1, 0, 0, 1] := by
  have hidle : IsIdle (start 2 [memoryLimitCeiling, cpuLimitCeiling]) 0 := by decide
  have hidle' : IsIdle ((start 2 [memoryLimitCeiling, cpuLimitCeiling]).put 0
      ⟨memoryLimitCeiling, .running 0 (memoryLimitCeiling.scope.subjects greedyPod) []⟩ []) 1 := by
    decide
  have htake : Pool.Step greedyPod (start 2 [memoryLimitCeiling, cpuLimitCeiling]) _ :=
    .take (i := 0) rfl hidle
  have hreaches := Relation.ReflTransGen.head htake <|
    .head (.take (i := 1) rfl hidle') <|
    .head (.work (i := 1) rfl (.check rfl)) <| .head (.work (i := 0) rfl (.check rfl)) <|
    .head (.work (i := 0) rfl (.check rfl)) <| .head (.work (i := 1) rfl (.check rfl)) <|
    .head (.work (i := 1) rfl .finish) <| .single (.work (i := 0) rfl .finish)
  exact ⟨_, hreaches, by decide, rfl⟩

/-- The warnings of the two rules are mixed, and yet they are those of one worker
in another order. -/
theorem runs_greedyManifest : ∃ found log,
    (pairEngine 2).Runs (.decoded greedyManifest) (.ok found) log ∧
    log.map Prod.fst = [1, 0, 0, 1] ∧
    (pairEngine 1).assess (.decoded greedyManifest) = .ok found ∧
    (log.map Prod.snd).Perm ((pairEngine 1).judgeWarnings greedyPod) ∧
    linesOf 0 log = Catalog.memoryLimitCeiling.warnings greedyPod ∧
    linesOf 1 log = Catalog.cpuLimitCeiling.warnings greedyPod := by
  obtain ⟨s, hreaches, hsettled, hpositions⟩ := pairEngine_reaches
  have hread : (Submission.decoded greedyManifest).readPod = .ok (some greedyPod) := rfl
  have hruns : (pairEngine 2).Runs (.decoded greedyManifest) _ s.log :=
    .judged hread hreaches hsettled (hreaches.sound.gather hsettled)
  obtain ⟨-, -, hagree⟩ := runs_agree [Catalog.memoryLimitCeiling, Catalog.cpuLimitCeiling] [] 2
    (.decoded greedyManifest)
  obtain ⟨hassess, -, hlogged⟩ := hagree _ _ hruns
  obtain ⟨-, hcomplete⟩ := hlogged greedyPod hread
  obtain ⟨hperm, horder⟩ := hcomplete _ rfl
  exact ⟨_, s.log, hruns, hpositions, hassess.symm, hperm, horder 0 _ rfl, horder 1 _ rfl⟩

end PodPolicy
