import PodPolicy.Proofs.Attribution
import PodPolicy.Proofs.Blocks
import PodPolicy.Proofs.Ceilings
import PodPolicy.Proofs.Independence
import PodPolicy.Proofs.Template

/-!
# What a quantity has a say in

A quantity is read by the ceiling for it and by no other rule.
`quantities_contained`: to write another quantity for a container or a volume, well
or badly, is to change at most one entry of the verdict, that of its ceiling. A
quantity that cannot be read gives a violation and a warning, one for one, and no
other outcome.

Where the message of another violation cannot tell its number there is no verdict,
whatever the quantity.
-/

namespace PodPolicy

open Numeral

-- -----------------------------------------------------------------------------
-- Contents with another quantity
-- -----------------------------------------------------------------------------

def Labels.SameBut (name : String) (labels labels' : Labels) : Prop :=
  ∀ other ≠ name, labels.get? other = labels'.get? other

def Container.limitedBy (c : Container) (limits : Labels) : Container :=
  { c with resources := some ⟨some limits, c.resources.bind (·.requests)⟩ }

def Volume.sized (v : Volume) (size : String) : Volume :=
  { v with emptyDir := some ⟨v.emptyDir.bind (·.medium), some size⟩ }

/-- Both are refused alike for a number that cannot be told, or they have the same
violations but for an entry of each in one place. -/
def Assessment.SameBut (entry entry' : Option Violation) (x y : Assessment) : Prop :=
  (x = .error (.fault .untellableNumber) ∧ y = .error (.fault .untellableNumber)) ∨
    ∃ first last, x = .ok (first ++ entry.toList ++ last) ∧
      y = .ok (first ++ entry'.toList ++ last)

/-- Two pods fare alike in an engine but for an entry of each in one place. -/
def Engine.TellsApart (e : Engine) (pod pod' : Pod) (entry entry' : Option Violation) : Prop :=
  ∀ given given' : Submission, given.readPod = .ok (some pod) →
    given'.readPod = .ok (some pod') →
    Assessment.SameBut entry entry' (e.assess given) (e.assess given')

-- -----------------------------------------------------------------------------
-- Blocks that stay as they are
-- -----------------------------------------------------------------------------

section
variable {r : Rule} {rules : List Rule} {frame pod pod' : Pod} {cs ds : List Container}
  {c d : Container} {vs ws : List Volume} {v w : Volume} {first last : List Violation}
  {entry entry' : Option Violation}

/-- Where one rule gives way to an entry in its place and the other rules stay as they
are, so does the whole verdict. -/
theorem blocks_sameBut (hids : (rules.map Rule.id).Nodup) (hr : r ∈ rules)
    (hothers : ∀ s ∈ rules, s ≠ r → s.block pod = s.block pod')
    (hown : r.block pod = .ok (first ++ entry.toList ++ last))
    (hown' : r.block pod' = .ok (first ++ entry'.toList ++ last)) :
    Assessment.SameBut entry entry' ((blocks rules pod).mapError .fault)
      ((blocks rules pod').mapError .fault) := by
  obtain ⟨before, after, rfl⟩ := List.append_of_mem hr
  rw [List.map_append, List.map_cons, List.nodup_middle, List.nodup_cons, List.mem_append] at hids
  have hbefore : blocks before pod = blocks before pod' := by
    refine blocks_congr fun s hs => hothers s (List.mem_append_left _ hs) ?_
    rintro rfl
    exact hids.1 (.inl (List.mem_map_of_mem hs))
  have hafter : blocks after pod = blocks after pod' := by
    refine blocks_congr fun s hs =>
      hothers s (List.mem_append_right _ (List.mem_cons_of_mem _ hs)) ?_
    rintro rfl
    exact hids.1 (.inr (List.mem_map_of_mem hs))
  rw [blocks_append, blocks_append, blocks_cons, blocks_cons, hown, hown', hbefore, hafter,
    blocks_eq, blocks_eq]
  cases before.all (·.canTellAll pod') with
  | false => exact .inl ⟨rfl, rfl⟩
  | true =>
    cases after.all (·.canTellAll pod') with
    | false => exact .inl ⟨rfl, rfl⟩
    | true =>
      refine .inr ⟨before.flatMap (·.violations pod') ++ first,
        last ++ after.flatMap (·.violations pod'), ?_, ?_⟩
      all_goals exact congrArg Except.ok (by simp [List.append_assoc])

theorem Scope.subjects_volumes {s : Scope} (hs : s.isOfContainers = false) :
    s.subjects (frame.holding cs vs) = s.subjects (frame.holding ds vs) := by
  cases s with
  | pod | volume => rfl
  | container | port | env => cases hs

theorem block_congr_container (hr : r ∈ catalog)
    (h : r.block (frame.holding [c] []) = r.block (frame.holding [d] [])) :
    r.block (frame.holding (cs ++ c :: ds) vs) = r.block (frame.holding (cs ++ d :: ds) vs) := by
  by_cases hs : r.scope.isOfContainers = true
  · rw [block_append_containers hr hs [] [], block_append_containers hr hs [] [],
      ← List.singleton_append, ← List.singleton_append (x := d),
      block_append_containers hr hs [] [], block_append_containers hr hs [] [], h]
  · rcases catalog_looksAtSubject r hr with rfl | hlooks
    · rw [block_privileged, block_privileged] at h ⊢
      have hsame : Catalog.isPrivileged c = Catalog.isPrivileged d := by
        cases hc : Catalog.isPrivileged c <;> cases hd : Catalog.isPrivileged d <;>
          simp [hc, hd] at h ⊢
      rw [List.any_append, List.any_append, List.any_cons, List.any_cons, hsame]
    · rw [hlooks.block, hlooks.block, Scope.subjects_volumes (Bool.not_eq_true _ ▸ hs)]

theorem block_congr_volume (hr : r ∈ catalog)
    (h : r.block (frame.holding [] [v]) = r.block (frame.holding [] [w])) :
    r.block (frame.holding cs (vs ++ v :: ws)) = r.block (frame.holding cs (vs ++ w :: ws)) := by
  by_cases hs : r.scope = .volume
  · rw [block_append_volumes hr hs [] [], block_append_volumes hr hs [] [],
      ← List.singleton_append, ← List.singleton_append (x := w),
      block_append_volumes hr hs [] [], block_append_volumes hr hs [] [], h]
  · rcases catalog_looksAtSubject r hr with rfl | hlooks
    · rw [block_privileged, block_privileged]
    · have hsubjects : r.scope.subjects (frame.holding cs (vs ++ v :: ws)) =
          r.scope.subjects (frame.holding cs (vs ++ w :: ws)) := by
        generalize r.scope = s at hs
        cases s with
        | volume => exact absurd rfl hs
        | pod | container | port | env => rfl
      rw [hlooks.block, hlooks.block, hsubjects]

/-- A rule that tells no number gives each subject its entry in its place. -/
theorem Rule.LooksAtSubject.block_place {before after : List r.scope.Subject}
    {subject : r.scope.Subject} (h : r.LooksAtSubject)
    (hfigure : ∀ pod subject, r.figure pod subject = none)
    (hsubjects : r.scope.subjects (frame.holding cs vs) = before ++ subject :: after) :
    r.block (frame.holding cs vs) = .ok (before.filterMap (r.judge frame) ++
      (r.judge frame subject).toList ++ after.filterMap (r.judge frame)) := by
  have htell (x) : r.canTell frame x = true := by
    rw [canTell, hfigure]
    split <;> rfl
  rw [h.block, hsubjects, report, if_pos (List.all_eq_true.mpr fun x _ => htell x),
    List.filterMap_append]
  cases hjudge : r.judge frame subject <;> simp [hjudge]

end

-- -----------------------------------------------------------------------------
-- Rules that look at other things
-- -----------------------------------------------------------------------------

section
variable {frame : Pod} {c : Container} {v : Volume} {limits limits' : Labels} {size size' : String}

open Catalog

theorem unnamedUdpPort_overlooks :
    unnamedUdpPort.block (frame.holding [c.limitedBy limits] []) =
      unnamedUdpPort.block (frame.holding [c.limitedBy limits'] []) := by
  have hports (limits) : unnamedUdpPort.block (frame.holding [c.limitedBy limits] []) =
      unnamedUdpPort.report frame (c.portList.map (c.limitedBy limits, ·)) :=
    congrArg (unnamedUdpPort.report frame) (List.flatMap_singleton _ _)
  rw [hports, hports]
  apply Rule.report_map <;> exact fun _ => rfl

theorem secretKeyRef_overlooks :
    secretKeyRef.block (frame.holding [c.limitedBy limits] []) =
      secretKeyRef.block (frame.holding [c.limitedBy limits'] []) := by
  have henv (limits) : secretKeyRef.block (frame.holding [c.limitedBy limits] []) =
      secretKeyRef.report frame (c.envList.map (c.limitedBy limits, ·)) :=
    congrArg (secretKeyRef.report frame) (List.flatMap_singleton _ _)
  rw [henv, henv]
  apply Rule.report_map <;> exact fun _ => rfl

theorem memoryLimitCeiling_overlooks (h : limits.get? "memory" = limits'.get? "memory") :
    memoryLimitCeiling.block (frame.holding [c.limitedBy limits] []) =
      memoryLimitCeiling.block (frame.holding [c.limitedBy limits'] []) := by
  change memoryLimitCeiling.report frame ([()].map fun _ => c.limitedBy limits) =
    memoryLimitCeiling.report frame ([()].map fun _ => c.limitedBy limits')
  apply Rule.report_map
  case hcheck =>
    intro _
    simp only [memoryLimitCeiling, Container.limitedBy, Container.limits, Option.bind_some,
      Option.getD_some, h]
  all_goals exact fun _ => rfl

theorem cpuLimitCeiling_overlooks (h : limits.get? "cpu" = limits'.get? "cpu") :
    cpuLimitCeiling.block (frame.holding [c.limitedBy limits] []) =
      cpuLimitCeiling.block (frame.holding [c.limitedBy limits'] []) := by
  change cpuLimitCeiling.report frame ([()].map fun _ => c.limitedBy limits) =
    cpuLimitCeiling.report frame ([()].map fun _ => c.limitedBy limits')
  apply Rule.report_map
  case hcheck =>
    intro _
    simp only [cpuLimitCeiling, Container.limitedBy, Container.limits, Option.bind_some,
      Option.getD_some, h]
  all_goals exact fun _ => rfl

theorem catalog_overlooks_limits : ∀ r ∈ catalog,
    r = memoryLimitCeiling ∨ r = cpuLimitCeiling ∨ ∀ frame c limits limits',
      r.block (Pod.holding frame [Container.limitedBy c limits] []) =
        r.block (frame.holding [c.limitedBy limits'] []) := by
  simp only [catalog, List.forall_mem_cons, List.not_mem_nil, false_implies, implies_true, and_true,
    true_or, or_true, true_and]
  repeat' apply And.intro
  all_goals first
    | exact .inr (.inr fun _ _ _ _ => rfl)
    | exact .inr (.inr fun _ _ _ _ => unnamedUdpPort_overlooks)
    | exact .inr (.inr fun _ _ _ _ => secretKeyRef_overlooks)

theorem catalog_overlooks_size : ∀ r ∈ catalog,
    r = emptyDirSizeCeiling ∨ ∀ frame v size size',
      r.block (Pod.holding frame [] [Volume.sized v size]) =
        r.block (frame.holding [] [v.sized size']) := by
  simp only [catalog, List.forall_mem_cons, List.not_mem_nil, false_implies, implies_true, and_true,
    true_or, true_and]
  repeat' apply And.intro
  all_goals exact .inr fun _ _ _ _ => rfl

end

-- -----------------------------------------------------------------------------
-- The entry of a ceiling
-- -----------------------------------------------------------------------------

def Rule.unparsable (r : Rule) (subject : r.scope.Subject) (quantity : String) : Violation :=
  r.violation subject .unparsableQuantity
    s!"{r.scope.describe subject} has an unparsable quantity '{quantity}' ({r.id})"

def Rule.warning (r : Rule) (subject : r.scope.Subject) (quantity : String) : String :=
  s!"Rule {r.id} could not parse quantity {quantity} for {r.scope.describe subject}"

/-- What a ceiling finds in a subject for its quantity, if there is one. -/
structure Rule.Weighs (r : Rule) (pod : Pod) (subject : r.scope.Subject) (ceiling : Rat)
    (quantity : Option String) : Prop where
  absent : quantity = none → r.judge pod subject = none
  within : ∀ q n, quantity = some q → Quantity.parse q = .ok n → n.toRat ≤ ceiling →
    r.judge pod subject = none
  above : ∀ q n, quantity = some q → Quantity.parse q = .ok n → ceiling < n.toRat →
    ∃ message, r.judge pod subject = some (r.violation subject .policy message)
  unread : ∀ q e, quantity = some q → Quantity.parse q = .error e →
    r.judge pod subject = some (r.unparsable subject q)

section
variable {r : Rule} {pod : Pod} {subject : r.scope.Subject} {q ceiling : String} {limit : Decimal}
  {bound : Rat} {quantity : Option String} {message : String → String}

theorem Rule.judge_error {e : Quantity.Error} (h : r.check pod subject = .error e) :
    r.judge pod subject = some (r.unparsable subject e.quantity.display) := by
  rw [judge, h]
  rfl

theorem Rule.judge_message {text : String} (h : r.check pod subject = .ok (some text)) :
    r.judge pod subject = some (r.violation subject .policy text) := by
  rw [judge, h]

theorem Rule.warn_error {e : Quantity.Error} (h : r.check pod subject = .error e) :
    r.warn pod subject = some (r.warning subject e.quantity.literal) := by
  rw [warn, h]
  rfl

theorem Quantity.parse_error {e : Quantity.Error} (h : parse q = .error e) :
    e.quantity = .text q := by
  unfold parse at h
  split at h
  · cases h
  · cases h
    rfl

theorem Quantity.exceeds_text (hlimit : parse ceiling = .ok limit) :
    exceeds (.text q) (.text ceiling) =
      (parse q).map fun n => decide (limit.toRat < n.toRat) := by
  rw [exceeds, Quantity.compare, parseValue, parseValue, hlimit]
  cases parse q with
  | error e => rfl
  | ok n =>
    have horder : (n.compare limit == .gt) = decide (limit.toRat < n.toRat) := by
      rw [Decimal.compare_eq, Bool.eq_iff_iff, beq_iff_eq, compare_gt_iff_gt, decide_eq_true_iff]
    exact congrArg Except.ok horder

theorem Rule.weighs (hlimit : Quantity.parse ceiling = .ok limit) (hbound : limit.toRat = bound)
    (habsent : quantity = none → r.check pod subject = .nothing)
    (hpresent : ∀ q, quantity = some q →
      r.check pod subject = .whenExceeds (.text q) (.text ceiling) (message q)) :
    r.Weighs pod subject bound quantity := by
  subst hbound
  constructor
  case absent =>
    intro hnone
    rw [judge_none, habsent hnone]
    rfl
  case within =>
    intro q n hq hparse hle
    rw [judge_none, hpresent q hq, Finding.whenExceeds, Quantity.exceeds_text hlimit, hparse,
      Except.map, decide_eq_false (not_lt.mpr hle)]
    rfl
  case above =>
    intro q n hq hparse hlt
    have hcheck : r.check pod subject = .ok (some (message q)) := by
      rw [hpresent q hq, Finding.whenExceeds, Quantity.exceeds_text hlimit, hparse, Except.map,
        decide_eq_true hlt]
      rfl
    exact ⟨message q, judge_message hcheck⟩
  case unread =>
    intro q e hq hparse
    have hcheck : r.check pod subject = .error e := by
      rw [hpresent q hq, Finding.whenExceeds, Quantity.exceeds_text hlimit, hparse]
      rfl
    rw [judge_error hcheck, Quantity.parse_error hparse]
    rfl

end

section
open Catalog

variable {pod : Pod} {c : Container} {v : Volume} {limits : Labels} {size : String}

theorem memoryLimitCeiling_weighs :
    memoryLimitCeiling.Weighs pod (c.limitedBy limits) (2 ^ 31) (limits.get? "memory") := by
  have hlimit : Quantity.parse memoryCeiling = .ok ⟨false, 2147483648, 0⟩ := rfl
  refine Rule.weighs hlimit (by norm_num [Decimal.toRat]) ?_ fun q hq => memoryLimitCeiling_check hq
  intro hnone
  simp only [memoryLimitCeiling, Container.limitedBy, Container.limits, Option.bind_some,
    Option.getD_some, hnone]

theorem cpuLimitCeiling_weighs :
    cpuLimitCeiling.Weighs pod (c.limitedBy limits) 2 (limits.get? "cpu") := by
  have hlimit : Quantity.parse cpuCeiling = .ok ⟨false, 2000, -3⟩ := rfl
  refine Rule.weighs hlimit (by norm_num [Decimal.toRat]) ?_ fun q hq => cpuLimitCeiling_check hq
  intro hnone
  simp only [cpuLimitCeiling, Container.limitedBy, Container.limits, Option.bind_some,
    Option.getD_some, hnone]

theorem emptyDirSizeCeiling_weighs :
    emptyDirSizeCeiling.Weighs pod (v.sized size) (2 ^ 30) (some size) := by
  have hlimit : Quantity.parse emptyDirCeiling = .ok ⟨false, 1073741824, 0⟩ := rfl
  exact Rule.weighs hlimit (by norm_num [Decimal.toRat]) nofun
    fun q hq => emptyDirSizeCeiling_check hq

end

-- -----------------------------------------------------------------------------
-- Warnings
-- -----------------------------------------------------------------------------

/-- A warning and a violation are for the same quantity of the same subject. -/
def Rule.Warns (r : Rule) (pod : Pod) (line : String) (v : Violation) : Prop :=
  ∃ subject ∈ r.scope.subjects pod, ∃ e : Quantity.Error, r.check pod subject = .error e ∧
    line = r.warning subject e.quantity.literal ∧ v = r.unparsable subject e.quantity.display

section
variable {r : Rule} {pod : Pod} {given : Submission} {e : Engine} {found : List Violation}

theorem Rule.warnings_matched {subjects : List r.scope.Subject}
    (hsubjects : subjects ⊆ r.scope.subjects pod) :
    List.Forall₂ (r.Warns pod) (subjects.filterMap (r.warn pod))
      ((subjects.filterMap (r.judge pod)).filter (·.kind = .unparsableQuantity)) := by
  induction subjects with
  | nil => exact .nil
  | cons subject rest ih =>
    have hrest := ih fun _ h => hsubjects (List.mem_cons_of_mem _ h)
    cases hcheck : r.check pod subject with
    | error e =>
      rw [List.filterMap_cons_some (warn_error hcheck),
        List.filterMap_cons_some (judge_error hcheck),
        List.filter_cons_of_pos (by simp [unparsable, violation])]
      exact .cons ⟨subject, hsubjects List.mem_cons_self, e, hcheck, rfl, rfl⟩ hrest
    | ok message? =>
      have hwarn : r.warn pod subject = none := by rw [warn, hcheck]
      rw [List.filterMap_cons_none hwarn]
      cases message? with
      | none => rwa [List.filterMap_cons_none (judge_none.mpr hcheck)]
      | some message =>
        rwa [List.filterMap_cons_some (judge_message hcheck),
          List.filter_cons_of_neg (by simp [violation])]

theorem warnings_matched (rules : List Rule) :
    List.Forall₂ (fun line v => ∃ r ∈ rules, r.Warns pod line v)
      (rules.flatMap (·.warnings pod))
      ((rules.flatMap (·.violations pod)).filter (·.kind = .unparsableQuantity)) := by
  induction rules with
  | nil => exact .nil
  | cons r rest ih =>
    rw [List.flatMap_cons, List.flatMap_cons, List.filter_append]
    refine List.rel_append ?_ ?_
    · exact (Rule.warnings_matched (List.Subset.refl _)).imp
        fun line v h => ⟨r, List.mem_cons_self, h⟩
    · exact ih.imp fun line v ⟨s, hs, h⟩ => ⟨s, List.mem_cons_of_mem r hs, h⟩

/-- An evaluation without a result is a manifest of another shape, or a pod of which
a number cannot be told. -/
theorem assess_unjudged {u : Unjudged} (h : e.assess given = .error u) :
    (∃ s, given.readPod = .error s ∧ u = .shape s) ∨
      ∃ pod, given.readPod = .ok (some pod) ∧ e.canTell pod = false ∧
        u = .fault .untellableNumber := by
  cases hread : given.readPod with
  | error s =>
    rw [assess_error hread] at h
    exact .inl ⟨s, rfl, (Except.error.inj h).symm⟩
  | ok pod? =>
    cases pod? with
    | none =>
      rw [assess_none hread] at h
      cases h
    | some pod =>
      rw [assess_some hread, Engine.verdict] at h
      cases htell : e.canTell pod with
      | true =>
        rw [htell] at h
        cases h
      | false =>
        rw [htell] at h
        exact .inr ⟨pod, rfl, htell, (Except.error.inj h).symm⟩

end

-- -----------------------------------------------------------------------------
-- Quantities in their place
-- -----------------------------------------------------------------------------

section
open Catalog

variable {frame : Pod} {cs ds : List Container} {c : Container} {vs ws : List Volume} {v : Volume}
  {workers : Int}

theorem catalog_ids : (catalog.map Rule.id).Nodup := by
  decide

theorem Engine.activeRules_catalog : (make catalog [] workers).activeRules = catalog := by
  simp [activeRules_make]

theorem Engine.tellsApart {r : Rule} {pod pod' : Pod} {first last : List Violation}
    {entry entry' : Option Violation} (hr : r ∈ catalog)
    (hothers : ∀ s ∈ catalog, s ≠ r → s.block pod = s.block pod')
    (hown : r.block pod = .ok (first ++ entry.toList ++ last))
    (hown' : r.block pod' = .ok (first ++ entry'.toList ++ last)) :
    (make catalog [] workers).TellsApart pod pod' entry entry' := by
  intro given given' hread hread'
  rw [assess_some hread, assess_some hread', verdict_blocks, verdict_blocks, activeRules_catalog]
  exact blocks_sameBut catalog_ids hr hothers hown hown'

theorem tellsApart_memory {limits limits' : Labels} (h : limits.SameBut "memory" limits') :
    (Engine.make catalog [] workers).TellsApart (frame.holding (cs ++ c.limitedBy limits :: ds) vs)
      (frame.holding (cs ++ c.limitedBy limits' :: ds) vs)
      (memoryLimitCeiling.judge frame (c.limitedBy limits))
      (memoryLimitCeiling.judge frame (c.limitedBy limits')) := by
  have hlooks : memoryLimitCeiling.LooksAtSubject := fun _ _ _ _ => ⟨rfl, rfl⟩
  refine Engine.tellsApart (r := memoryLimitCeiling) (by simp [catalog]) (fun s hs hne => ?_)
    (hlooks.block_place (fun _ _ => rfl) rfl) (hlooks.block_place (fun _ _ => rfl) rfl)
  apply block_congr_container hs
  rcases catalog_overlooks_limits s hs with rfl | rfl | hoverlooks
  · exact absurd rfl hne
  · exact cpuLimitCeiling_overlooks (h "cpu" (by decide))
  · exact hoverlooks frame c limits limits'

theorem tellsApart_cpu {limits limits' : Labels} (h : limits.SameBut "cpu" limits') :
    (Engine.make catalog [] workers).TellsApart (frame.holding (cs ++ c.limitedBy limits :: ds) vs)
      (frame.holding (cs ++ c.limitedBy limits' :: ds) vs)
      (cpuLimitCeiling.judge frame (c.limitedBy limits))
      (cpuLimitCeiling.judge frame (c.limitedBy limits')) := by
  have hlooks : cpuLimitCeiling.LooksAtSubject := fun _ _ _ _ => ⟨rfl, rfl⟩
  refine Engine.tellsApart (r := cpuLimitCeiling) (by simp [catalog]) (fun s hs hne => ?_)
    (hlooks.block_place (fun _ _ => rfl) rfl) (hlooks.block_place (fun _ _ => rfl) rfl)
  apply block_congr_container hs
  rcases catalog_overlooks_limits s hs with rfl | rfl | hoverlooks
  · exact memoryLimitCeiling_overlooks (h "memory" (by decide))
  · exact absurd rfl hne
  · exact hoverlooks frame c limits limits'

theorem tellsApart_size {size size' : String} :
    (Engine.make catalog [] workers).TellsApart (frame.holding cs (vs ++ v.sized size :: ws))
      (frame.holding cs (vs ++ v.sized size' :: ws))
      (emptyDirSizeCeiling.judge frame (v.sized size))
      (emptyDirSizeCeiling.judge frame (v.sized size')) := by
  have hlooks : emptyDirSizeCeiling.LooksAtSubject := fun _ _ _ _ => ⟨rfl, rfl⟩
  refine Engine.tellsApart (r := emptyDirSizeCeiling) (by simp [catalog]) (fun s hs hne => ?_)
    (hlooks.block_place (fun _ _ => rfl) rfl) (hlooks.block_place (fun _ _ => rfl) rfl)
  apply block_congr_volume hs
  rcases catalog_overlooks_size s hs with rfl | hoverlooks
  · exact absurd rfl hne
  · exact hoverlooks frame v size size'

end

open Catalog in
/-- A quantity has a say in the entry of its ceiling alone, whatever is written and
whether it can be read. One that cannot be read never ends an evaluation: where there
is a verdict, the warnings and the violations for such quantities go together, one by
one and in order. -/
theorem quantities_contained (frame : Pod) (workers : Int) :
    (∀ cs c ds vs limits limits', Labels.SameBut "memory" limits limits' →
      (Engine.make catalog [] workers).TellsApart
          (frame.holding (cs ++ Container.limitedBy c limits :: ds) vs)
          (frame.holding (cs ++ c.limitedBy limits' :: ds) vs)
          (memoryLimitCeiling.judge frame (c.limitedBy limits))
          (memoryLimitCeiling.judge frame (c.limitedBy limits')) ∧
        memoryLimitCeiling.Weighs frame (c.limitedBy limits) (2 ^ 31) (limits.get? "memory")) ∧
    (∀ cs c ds vs limits limits', Labels.SameBut "cpu" limits limits' →
      (Engine.make catalog [] workers).TellsApart
          (frame.holding (cs ++ Container.limitedBy c limits :: ds) vs)
          (frame.holding (cs ++ c.limitedBy limits' :: ds) vs)
          (cpuLimitCeiling.judge frame (c.limitedBy limits))
          (cpuLimitCeiling.judge frame (c.limitedBy limits')) ∧
        cpuLimitCeiling.Weighs frame (c.limitedBy limits) 2 (limits.get? "cpu")) ∧
    (∀ cs vs v ws size size',
      (Engine.make catalog [] workers).TellsApart
          (frame.holding cs (vs ++ Volume.sized v size :: ws))
          (frame.holding cs (vs ++ v.sized size' :: ws))
          (emptyDirSizeCeiling.judge frame (v.sized size))
          (emptyDirSizeCeiling.judge frame (v.sized size')) ∧
        emptyDirSizeCeiling.Weighs frame (v.sized size) (2 ^ 30) (some size)) ∧
    ∀ (e : Engine) (given : Submission),
      (∀ u, e.assess given = .error u → (∃ s, given.readPod = .error s ∧ u = .shape s) ∨
        ∃ pod, given.readPod = .ok (some pod) ∧ e.canTell pod = false ∧
          u = .fault .untellableNumber) ∧
      ∀ pod found, given.readPod = .ok (some pod) → e.assess given = .ok found →
        List.Forall₂ (fun line v => ∃ r ∈ e.activeRules, r.Warns pod line v)
          (e.judgeWarnings pod) (found.filter (·.kind = .unparsableQuantity)) := by
  refine ⟨?memory, ?cpu, ?size, fun e given => ⟨fun u => assess_unjudged, ?warnings⟩⟩
  case memory =>
    intro cs c ds vs limits limits' hsame
    exact ⟨tellsApart_memory hsame, memoryLimitCeiling_weighs⟩
  case cpu =>
    intro cs c ds vs limits limits' hsame
    exact ⟨tellsApart_cpu hsame, cpuLimitCeiling_weighs⟩
  case size =>
    intro cs vs v ws size size'
    exact ⟨tellsApart_size, emptyDirSizeCeiling_weighs⟩
  case warnings =>
    intro pod found hread hfound
    cases assess_judge hread hfound
    exact warnings_matched e.activeRules

def shopContainer : Container :=
  ⟨"shop", none, none, none, none, none, none, none, none, none, none, none⟩

def shopEntry (limits : List (String × Value)) : Value :=
  .record [("name", .text "shop"), ("resources", .record [("limits", .record limits)])]

def shopPod (limits : List (String × Value)) (size : String) : Submission :=
  .decoded (.record [("kind", .text "Pod"), ("spec", .record [
    ("volumes", .list [.record [("name", .text "cache"),
      ("emptyDir", .record [("sizeLimit", .text size)])]]),
    ("containers", .list [webEntry, shopEntry limits])])])

def cacheVolume : Volume :=
  ⟨"cache", none, none⟩

def patientPod (grace : Int) (limits : List (String × Value)) : Submission :=
  .decoded (.record [("kind", .text "Pod"), ("spec", .record [
    ("terminationGracePeriodSeconds", .int grace),
    ("containers", .list [shopEntry limits])])])

def patientFrame : Pod :=
  ⟨"Pod", none, {}, { terminationGracePeriodSeconds := some tellingLimit }⟩

theorem patientPod_read : (patientPod tellingLimit [("memory", .text "lots")]).readPod =
    .ok (some (patientFrame.holding [shopContainer.limitedBy [("memory", "lots")]] [])) :=
  rfl

theorem patientPod_untold :
    Engine.default.assess (patientPod tellingLimit [("memory", .text "lots")]) =
      .error (.fault .untellableNumber) :=
  evaluate_endless patientPod_read rfl

theorem assess_patientPod :
    (patientPod tellingLimit [("memory", .text "lots")]).readPod =
      .ok (some (patientFrame.holding [shopContainer.limitedBy [("memory", "lots")]] [])) ∧
    ∀ found, Engine.default.assess (patientPod tellingLimit [("memory", .text "lots")]) ≠
      .ok found := by
  refine ⟨patientPod_read, fun found hfound => ?_⟩
  rw [patientPod_untold] at hfound
  cases hfound

open Catalog in
theorem quantities_shopPod :
    let e := Engine.make catalog [] 3
    let few := Engine.make [memoryLimitCeiling, emptyDirSizeCeiling] [] 1
    let lots := shopContainer.limitedBy [("memory", "lots"), ("cpu", "4")]
    Assessment.SameBut (some (memoryLimitCeiling.unparsable lots "lots")) none
      (e.assess (shopPod [("memory", .text "lots"), ("cpu", .text "4")] "9Ti"))
      (e.assess (shopPod [("cpu", .text "4")] "9Ti")) ∧
    (∃ message, Assessment.SameBut (some (cpuLimitCeiling.violation lots .policy message)) none
      (e.assess (shopPod [("memory", .text "lots"), ("cpu", .text "4")] "9Ti"))
      (e.assess (shopPod [("memory", .text "lots")] "9Ti"))) ∧
    Assessment.SameBut (some (emptyDirSizeCeiling.unparsable (cacheVolume.sized "9Ti") "9Ti")) none
      (e.assess (shopPod [("cpu", .text "4")] "9Ti"))
      (e.assess (shopPod [("cpu", .text "4")] "64Mi")) ∧
    (∃ pod lines found, List.Forall₂ (fun line v => ∃ r ∈ few.activeRules, r.Warns pod line v)
      lines found ∧ lines =
        [memoryLimitCeiling.warning lots (Value.text "lots").literal,
         emptyDirSizeCeiling.warning (cacheVolume.sized "9Ti") (Value.text "9Ti").literal]) ∧
    ∃ pod, (patientPod tellingLimit [("memory", .text "lots")]).readPod = .ok (some pod) ∧
      Engine.default.canTell pod = false := by
  intro e few lots
  obtain ⟨hmemory, hcpu, hsize, hengine⟩ := quantities_contained emptyPod 3
  have hdrop (other : String) (hother : other ≠ "memory") :
      Labels.get? [("memory", "lots"), ("cpu", "4")] other = Labels.get? [("cpu", "4")] other := by
    simp [Labels.get?, List.lookup_cons, beq_eq_false_iff_ne.mpr hother]
  have hdrop' (other : String) (hother : other ≠ "cpu") :
      Labels.get? [("memory", "lots"), ("cpu", "4")] other =
        Labels.get? [("memory", "lots")] other := by
    simp [Labels.get?, List.lookup_cons, beq_eq_false_iff_ne.mpr hother]
  refine ⟨?memory, ?cpu, ?size, ?warnings, ?untold⟩
  case memory =>
    obtain ⟨happart, hweighs⟩ :=
      hmemory [webContainer] shopContainer [] [cacheVolume.sized "9Ti"] _ _ hdrop
    have hnone := (hmemory [] shopContainer [] [] [("cpu", "4")] _ fun _ _ => rfl).2.absent rfl
    rw [hweighs.unread "lots" _ rfl rfl] at happart
    exact hnone ▸ happart _ _ rfl rfl
  case cpu =>
    obtain ⟨happart, hweighs⟩ :=
      hcpu [webContainer] shopContainer [] [cacheVolume.sized "9Ti"] _ _ hdrop'
    have hnone := (hcpu [] shopContainer [] [] [("memory", "lots")] _ fun _ _ => rfl).2.absent rfl
    have hfour : (2 : Rat) < (⟨false, 4, 0⟩ : Decimal).toRat := by norm_num [Decimal.toRat]
    obtain ⟨message, hover⟩ := hweighs.above "4" ⟨false, 4, 0⟩ rfl rfl hfour
    rw [hover] at happart
    exact ⟨message, hnone ▸ happart _ _ rfl rfl⟩
  case size =>
    obtain ⟨happart, hweighs⟩ := hsize
      [webContainer, shopContainer.limitedBy [("cpu", "4")]] [] cacheVolume [] "9Ti" "64Mi"
    have hsmall : (⟨false, 67108864, 0⟩ : Decimal).toRat ≤ 2 ^ 30 := by norm_num [Decimal.toRat]
    have hnone := (hsize [] [] cacheVolume [] "64Mi" "64Mi").2.within "64Mi" ⟨false, 67108864, 0⟩
      rfl rfl hsmall
    rw [hweighs.unread "9Ti" _ rfl rfl, hnone] at happart
    exact happart _ _ rfl rfl
  case warnings =>
    have hread : (shopPod [("memory", .text "lots"), ("cpu", .text "4")] "9Ti").readPod =
      .ok (some _) := rfl
    have hfound : few.assess (shopPod [("memory", .text "lots"), ("cpu", .text "4")] "9Ti") =
      .ok _ := rfl
    exact ⟨_, _, _, (hengine few _).2 _ _ hread hfound, rfl⟩
  case untold =>
    rcases (hengine Engine.default _).1 _ patientPod_untold with ⟨_, -, hshape⟩ | ⟨pod, hpod⟩
    · cases hshape
    · exact ⟨pod, hpod.1, hpod.2.1⟩

end PodPolicy
