import Mathlib.Tactic.NormNum
import PodPolicy.Proofs.Evaluation
import PodPolicy.Proofs.QuantityOrder

/-!
# Ceilings for quantities

A quantity is compared with a ceiling by its rounded value. `ceilings_enforced`: it
is found where it is over the ceiling by more than half a unit of the 28th digit of
the ceiling, and no earlier. Quantities of at most 28 digits are found wherever they
are over.
-/

namespace PodPolicy

open Numeral

-- -----------------------------------------------------------------------------
-- Rounding near a bound
-- -----------------------------------------------------------------------------

/-- What is rounded stays over a number of that many digits, the last one even, where
it is over it by more than half a unit of that digit. -/
theorem Numeral.Decimal.lt_round_iff {a : Decimal} {digits k : Nat} {e : Int} (htwo : 2 ≤ digits)
    (hshort : digitCount (k + 1) ≤ digits)
    (htie : (⟨false, 10 * k + 5, e - 1⟩ : Decimal).round digits = ⟨false, k, e⟩) :
    k * 10 ^ e < (a.round digits).toRat ↔ k * 10 ^ e + 10 ^ e / 2 < a.toRat := by
  have hbound : (⟨false, k, e⟩ : Decimal).toRat = k * 10 ^ e := by simp [toRat]
  have hnext : (⟨false, k + 1, e⟩ : Decimal).toRat = k * 10 ^ e + 10 ^ e := by
    simp [toRat, add_mul]
  have hmiddle : (⟨false, 10 * k + 5, e - 1⟩ : Decimal).toRat = k * 10 ^ e + 10 ^ e / 2 := by
    rw [toRat, zpow_sub_one₀ (by norm_num)]
    push_cast
    ring
  have hunit : (0 : Rat) < 10 ^ e := ten_zpow_pos e
  constructor
  · intro hover
    by_contra hle
    rw [not_lt, ← hmiddle] at hle
    have hround := round_mono htwo hle
    rw [htie, hbound] at hround
    linarith
  · intro hover
    by_contra hle
    rw [not_lt] at hle
    -- The next number is nearer than whatever is not over the bound.
    have hnear := (round_isNearest (a := a) htwo).nearest ⟨false, k + 1, e⟩ hshort
    rw [hnext, abs_of_pos (by linarith : 0 < a.toRat - (a.round digits).toRat)] at hnear
    rcases abs_cases (a.toRat - (k * 10 ^ e + 10 ^ e)) with ⟨heq, -⟩ | ⟨heq, -⟩
    all_goals
      rw [heq] at hnear
      linarith

-- -----------------------------------------------------------------------------
-- Quantities and ceilings
-- -----------------------------------------------------------------------------

def Rule.Forbids (r : Rule) (pod : Pod) (subject : r.scope.Subject) : Prop :=
  ∃ v, r.judge pod subject = some v ∧ v.kind = .policy

/-- What writes a number is forbidden where the number is over the ceiling by more than
the slack, and a number of at most 28 digits wherever it is over the ceiling. -/
structure EnforcedUpTo (slack ceiling x : Rat) (forbidden : Prop) : Prop where
  above : forbidden ↔ ceiling + slack < x
  short : Decimal.FitsIn 28 x → (forbidden ↔ ceiling < x)

section
variable {r : Rule} {pod : Pod} {subject : r.scope.Subject} {q ceiling message : String}
  {x bound : Rat} {limit : Decimal} {k : Nat} {e : Int}

theorem Rule.forbids_iff : r.Forbids pod subject ↔
    ∃ message, r.check pod subject = .ok (some message) := by
  unfold Forbids judge
  split
  · simp [*]
  · simp [*, violation]
  · simp [*, violation]

theorem Rule.forbids_whenExceeds
    (h : r.check pod subject = .whenExceeds (.text q) (.text ceiling) message) :
    r.Forbids pod subject ↔ Quantity.exceeds (.text q) (.text ceiling) = .ok true := by
  rw [forbids_iff, h, Finding.whenExceeds]
  simp only [bind_ok]
  constructor
  · rintro ⟨_, isOver, hexceeds, hwhen⟩
    cases isOver with
    | true => exact hexceeds
    | false => cases hwhen
  · intro hexceeds
    exact ⟨message, true, hexceeds, rfl⟩

theorem Quantity.Writes.exceeds (hq : Writes (.text q) x) (hlimit : parse ceiling = .ok limit) :
    ∃ exact : Decimal, exact.toRat = x ∧
      (Quantity.exceeds (.text q) (.text ceiling) = .ok true ↔
        limit.toRat < (exact.round 28).toRat) := by
  obtain ⟨exact, hexact, hparse⟩ := hq.parseValue
  have hcompare : Quantity.compare (.text q) (.text ceiling) =
      .ok ((exact.round 28).compare limit) := by
    rw [Quantity.compare, hparse, Quantity.parseValue, hlimit]
    rfl
  refine ⟨exact, hexact, ?_⟩
  rw [Quantity.exceeds, hcompare, Decimal.compare_eq, ← compare_gt_iff_gt]
  simp only [bind_ok, Except.ok.injEq, exists_eq_left', pure_ok, beq_iff_eq]

theorem Rule.enforced (hq : Quantity.Writes (.text q) x)
    (h : r.check pod subject = .whenExceeds (.text q) (.text ceiling) message)
    (hlimit : Quantity.parse ceiling = .ok limit) (hbound : limit.toRat = bound)
    (hunits : bound = k * 10 ^ e) (hshort : digitCount (k + 1) ≤ 28)
    (htie : (⟨false, 10 * k + 5, e - 1⟩ : Decimal).round 28 = ⟨false, k, e⟩) :
    EnforcedUpTo (10 ^ e / 2) bound x (r.Forbids pod subject) := by
  obtain ⟨exact, rfl, hexceeds⟩ := hq.exceeds hlimit
  rw [hbound] at hexceeds
  constructor
  case above =>
    rw [forbids_whenExceeds h, hexceeds, hunits]
    exact Decimal.lt_round_iff (by decide) hshort htie
  case short =>
    intro hfits
    rw [forbids_whenExceeds h, hexceeds, hfits.round_eq (by decide) rfl]

end

section
open Catalog

variable {pod : Pod} {c : Container} {v : Volume} {q : String}

theorem memoryLimitCeiling_check (h : c.limits.get? "memory" = some q) :
    memoryLimitCeiling.check pod c = .whenExceeds (.text q) (.text memoryCeiling)
      s!"Container {c.name} memory limit {q} exceeds {memoryCeiling}" := by
  simp only [memoryLimitCeiling, h]

theorem cpuLimitCeiling_check (h : c.limits.get? "cpu" = some q) :
    cpuLimitCeiling.check pod c = .whenExceeds (.text q) (.text cpuCeiling)
      s!"Container {c.name} CPU limit {q} exceeds {cpuCeiling}" := by
  simp only [cpuLimitCeiling, h]

theorem emptyDirSizeCeiling_check (h : v.emptyDir.bind (·.sizeLimit) = some q) :
    emptyDirSizeCeiling.check pod v = .whenExceeds (.text q) (.text emptyDirCeiling)
      s!"Volume {v.name} emptyDir sizeLimit {q} exceeds {emptyDirCeiling}" := by
  simp only [emptyDirSizeCeiling, h]

end

/-- The ceilings are enforced up to what rounding takes away. -/
theorem ceilings_enforced (pod : Pod) {q : String} {x : Rat}
    (hq : Quantity.Writes (.text q) x) :
    (∀ c : Container, c.limits.get? "memory" = some q →
      EnforcedUpTo (10 ^ (-18 : Int) / 2) (2 ^ 31) x
        (Catalog.memoryLimitCeiling.Forbids pod c)) ∧
    (∀ c : Container, c.limits.get? "cpu" = some q →
      EnforcedUpTo (10 ^ (-27 : Int) / 2) 2 x (Catalog.cpuLimitCeiling.Forbids pod c)) ∧
    ∀ v : Volume, v.emptyDir.bind (·.sizeLimit) = some q →
      EnforcedUpTo (10 ^ (-18 : Int) / 2) (2 ^ 30) x
        (Catalog.emptyDirSizeCeiling.Forbids pod v) := by
  refine ⟨fun c hmemory => ?memory, fun c hcpu => ?cpu, fun v hsize => ?size⟩
  case memory =>
    have hlimit : Quantity.parse Catalog.memoryCeiling = .ok ⟨false, 2147483648, 0⟩ := rfl
    refine Rule.enforced (k := 2147483648000000000000000000) hq (memoryLimitCeiling_check hmemory)
      hlimit ?_ ?_ (by decide) rfl
    · norm_num [Decimal.toRat]
    · norm_num
  case cpu =>
    have hlimit : Quantity.parse Catalog.cpuCeiling = .ok ⟨false, 2000, -3⟩ := rfl
    refine Rule.enforced (k := 2000000000000000000000000000) hq (cpuLimitCeiling_check hcpu)
      hlimit ?_ ?_ (by decide) rfl
    · norm_num [Decimal.toRat]
    · norm_num
  case size =>
    have hlimit : Quantity.parse Catalog.emptyDirCeiling = .ok ⟨false, 1073741824, 0⟩ := rfl
    refine Rule.enforced (k := 1073741824000000000000000000) hq (emptyDirSizeCeiling_check hsize)
      hlimit ?_ ?_ (by decide) rfl
    · norm_num [Decimal.toRat]
    · norm_num

def closeQuantity : String :=
  "2147483648.0000000000000000001"

theorem closeQuantity_writes :
    Quantity.Writes (.text closeQuantity) (2 ^ 31 + 10 ^ (-19 : Int)) := by
  let whole : List Char := ['2', '1', '4', '7', '4', '8', '3', '6', '4', '8']
  let fraction : List Char := List.replicate 18 '0' ++ ['1']
  refine ⟨closeQuantity, false, whole, fraction, none, rfl,
    ⟨whole ++ '.' :: fraction, ⟨rfl, ?unsuffixed⟩, whole ++ '.' :: fraction, [], .bare,
      .pointed (by decide) ?whole ?fraction, .inl rfl⟩, ?value⟩
  case unsuffixed =>
    intro suffix
    cases suffix <;> decide
  case whole => exact List.all_eq_true.mp (by decide)
  case fraction => exact List.all_eq_true.mp (by decide)
  case value =>
    have hwhole : Text.digitsValue whole = 2147483648 := rfl
    have hfraction : Text.digitsValue fraction = 1 := rfl
    have hlength : fraction.length = 19 := rfl
    rw [Quantity.amount, Quantity.factor, hwhole, hfraction, hlength]
    norm_num

def limitedContainer (limits : Labels) : Container :=
  ⟨"web", none, none, none, some ⟨some limits, none⟩, none, none, none, none, none, none, none⟩

def limitedPod (c : Container) : Pod :=
  ⟨"Pod", none, {}, { containers := [c] }⟩

/-- Over the ceiling for memory, and found only against the other ceilings. What is
exactly at the ceiling is not found either. -/
theorem ceilings_closeQuantity :
    let close := limitedContainer [("memory", closeQuantity), ("cpu", closeQuantity)]
    let even := limitedContainer [("memory", "2048Mi")]
    let scratch : Volume := ⟨"scratch", none, some ⟨none, some closeQuantity⟩⟩
    ¬Catalog.memoryLimitCeiling.Forbids (limitedPod close) close ∧
      Catalog.cpuLimitCeiling.Forbids (limitedPod close) close ∧
      Catalog.emptyDirSizeCeiling.Forbids (limitedPod close) scratch ∧
      Decimal.FitsIn 28 ((2 ^ 31 : Int) : Rat) ∧
      ¬Catalog.memoryLimitCeiling.Forbids (limitedPod even) even := by
  intro close even scratch
  obtain ⟨hmemory, hcpu, hsize⟩ := ceilings_enforced (limitedPod close) closeQuantity_writes
  have hexact := (ceilings_enforced (limitedPod even) Quantity.writes_mebi).1 even rfl
  have hfits : Decimal.FitsIn 28 ((2 ^ 31 : Int) : Rat) := Quantity.fitsIn_int (by decide)
  refine ⟨?_, ?_, ?_, hfits, ?_⟩
  · rw [(hmemory close rfl).above]
    norm_num
  · rw [(hcpu close rfl).above]
    norm_num
  · rw [(hsize scratch rfl).above]
    norm_num
  · rw [hexact.short hfits]
    norm_num

def closePod : Value :=
  .record [("kind", .text "Pod"), ("spec", .record [("containers", .list [.record [
    ("name", .text "web"), ("resources", .record [("limits", .record [
      ("memory", .text closeQuantity)])])]])])]

theorem evaluate_closePod :
    readPod closePod = .ok (some (limitedPod (limitedContainer [("memory", closeQuantity)]))) ∧
    Quantity.Writes (.text closeQuantity) (2 ^ 31 + 10 ^ (-19 : Int)) ∧
    (2 ^ 31 : Rat) < 2 ^ 31 + 10 ^ (-19 : Int) ∧
    ∃ found, evaluate closePod = .ok found ∧
      ∀ v ∈ found, v.ruleId ≠ "memory-limit-ceiling" :=
  ⟨rfl, closeQuantity_writes, by norm_num, _, rfl, by decide⟩

end PodPolicy
