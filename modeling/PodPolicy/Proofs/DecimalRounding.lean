import Mathlib.Algebra.Group.Int.Even
import Mathlib.Algebra.Order.Group.Abs
import Mathlib.Algebra.Order.Ring.Abs
import Mathlib.Tactic.Linarith
import Mathlib.Tactic.Positivity
import PodPolicy.Proofs.DecimalOrder

/-!
# Rounding decimals

A decimal is rounded to the nearest of all decimals with few enough digits, and
of two that are equally near to the one with an even coefficient
(`round_isNearest`). A decimal of few digits is left as it is, with its exponent.
-/

namespace PodPolicy.Numeral

-- -----------------------------------------------------------------------------
-- Digits
-- -----------------------------------------------------------------------------

theorem digitCount_le_iff {n k : Nat} (hk : 0 < k) : digitCount n ≤ k ↔ n < 10 ^ k :=
  Nat.length_toDigits_le_iff (by decide) hk

theorem lt_digitCount_iff {n k : Nat} (hk : 0 < k) : k < digitCount n ↔ 10 ^ k ≤ n := by
  rw [← not_le, digitCount_le_iff hk, not_lt]

theorem digitCount_eq {n k : Nat} (hk : 0 < k) (hlow : 10 ^ (k - 1) ≤ n) (hhigh : n < 10 ^ k) :
    digitCount n = k := by
  refine le_antisymm ((digitCount_le_iff hk).mpr hhigh) ?_
  by_cases hone : k = 1
  · exact hone ▸ Nat.length_toDigits_pos
  · have hlt := (lt_digitCount_iff (k := k - 1) (by omega)).mpr hlow
    omega

-- -----------------------------------------------------------------------------
-- Quotients
-- -----------------------------------------------------------------------------

theorem divHalfEven_near (num den : Nat) (hden : 0 < den) :
    2 * |(num : Rat) - divHalfEven num den * den| ≤ den ∧
      (2 * |(num : Rat) - divHalfEven num den * den| = den → 2 ∣ divHalfEven num den) := by
  have hmod : num % den < den := Nat.mod_lt num hden
  have hnum : (num : Rat) = den * (num / den : Nat) + (num % den : Nat) := by
    exact_mod_cast (Nat.div_add_mod num den).symm
  have hdown : |(num : Rat) - (num / den : Nat) * den| = (num % den : Nat) := by
    rw [hnum, abs_of_nonneg (by ring_nf; positivity)]
    ring
  have hup : |(num : Rat) - (num / den + 1 : Nat) * den| = den - (num % den : Nat) := by
    have hle : ((num % den : Nat) : Rat) ≤ den := by exact_mod_cast hmod.le
    rw [hnum, abs_of_nonpos (by push_cast; linarith)]
    push_cast
    ring
  unfold divHalfEven
  simp only
  split
  · rename_i hlow
    have hlow : 2 * ((num % den : Nat) : Rat) < den := by exact_mod_cast hlow
    rw [hdown]
    exact ⟨hlow.le, fun h => absurd h hlow.ne⟩
  · split
    · rename_i hhigh
      have hhigh : (den : Rat) < 2 * (num % den : Nat) := by exact_mod_cast hhigh
      rw [hup]
      exact ⟨by linarith, fun h => by linarith⟩
    · rename_i hge hle
      have hhalf : 2 * ((num % den : Nat) : Rat) = den := by
        exact_mod_cast (show 2 * (num % den) = den by omega)
      split
      · rw [hdown]
        exact ⟨hhalf.le, fun _ => by omega⟩
      · rw [hup]
        exact ⟨by linarith, fun _ => by omega⟩

theorem divHalfEven_bounds (num den : Nat) :
    num / den ≤ divHalfEven num den ∧ divHalfEven num den ≤ num / den + 1 := by
  unfold divHalfEven
  simp only
  split
  · omega
  · split
    · omega
    · split <;> omega

-- -----------------------------------------------------------------------------
-- Nearest decimals
-- -----------------------------------------------------------------------------

/-- Nearest to a number among the decimals of at most `digits` digits, and even
where another one is as near. -/
structure Decimal.IsNearest (digits : Nat) (x : Rat) (b : Decimal) : Prop where
  short : digitCount b.coefficient ≤ digits
  nearest : ∀ c : Decimal, digitCount c.coefficient ≤ digits → |x - b.toRat| ≤ |x - c.toRat|
  even : ∀ c : Decimal, digitCount c.coefficient ≤ digits → |x - b.toRat| = |x - c.toRat| →
    c.toRat = b.toRat ∨ 2 ∣ b.coefficient

section
variable {x unit y : Rat} {k : Int}

theorem nearest_multiple (hunit : 0 < unit) (hnear : 2 * |x - k * unit| ≤ unit) (j : Int) :
    |x - k * unit| ≤ |x - j * unit| ∧
      (|x - k * unit| = |x - j * unit| → j = k ∨ 2 * |x - k * unit| = unit) := by
  by_cases hj : j = k
  · subst hj
    exact ⟨le_rfl, fun _ => .inl rfl⟩
  · have hone : (1 : Rat) ≤ |((j - k : Int) : Rat)| := by
      exact_mod_cast Int.one_le_abs (sub_ne_zero.mpr hj)
    have hapart : unit ≤ |x - k * unit| + |x - j * unit| := calc
      unit ≤ |((j - k : Int) : Rat)| * unit := le_mul_of_one_le_left hunit.le hone
      _ = |(x - k * unit) - (x - j * unit)| := by
        rw [← abs_of_pos hunit, ← abs_mul, abs_of_pos hunit]
        push_cast
        ring_nf
      _ ≤ |x - k * unit| + |x - j * unit| := abs_sub _ _
    exact ⟨by linarith, fun heq => .inr (by linarith)⟩

/-- A short number in units that are smaller lies below all of the multiples that
count, so it is not as near. -/
theorem nearest_short {digits : Nat} {e f : Int} {j : Int} (hdigits : 0 < digits)
    (hlow : 10 ^ (digits - 1) * 10 ^ e ≤ x) (hnear : 2 * |x - k * 10 ^ e| ≤ 10 ^ e)
    (hj : j.natAbs < 10 ^ digits) :
    |x - k * 10 ^ e| ≤ |x - j * 10 ^ f| ∧ (|x - k * 10 ^ e| = |x - j * 10 ^ f| →
      (j : Rat) * 10 ^ f = k * 10 ^ e ∨ 2 * |x - k * 10 ^ e| = 10 ^ e) := by
  have hunit : (0 : Rat) < 10 ^ e := Decimal.ten_zpow_pos e
  by_cases hef : e ≤ f
  · have hmultiple : (j : Rat) * 10 ^ f = ((j * 10 ^ (f - e).toNat : Int) : Rat) * 10 ^ e := by
      have hshift : (10 : Rat) ^ f = 10 ^ (f - e).toNat * 10 ^ e := by
        rw [← zpow_natCast, ← zpow_add₀ (by decide), Int.toNat_of_nonneg (by omega)]
        congr 1
        omega
      rw [hshift]
      push_cast
      ring
    obtain ⟨hle, htie⟩ := nearest_multiple hunit hnear (j * 10 ^ (f - e).toNat)
    rw [hmultiple]
    exact ⟨hle, fun heq => (htie heq).imp_left fun hk => by rw [hk]⟩
  · have hbelow : (j : Rat) * 10 ^ f < 10 ^ (digits - 1) * 10 ^ e := by
      have hlt : (j : Rat) < 10 ^ digits := by
        exact_mod_cast lt_of_le_of_lt Int.le_natAbs (by exact_mod_cast hj)
      have hfiner : (10 : Rat) ^ f ≤ 10 ^ (e - 1) := zpow_le_zpow_right₀ (by norm_num) (by omega)
      calc (j : Rat) * 10 ^ f < 10 ^ digits * 10 ^ f :=
            mul_lt_mul_of_pos_right hlt (Decimal.ten_zpow_pos f)
        _ ≤ 10 ^ digits * 10 ^ (e - 1) := mul_le_mul_of_nonneg_left hfiner (by positivity)
        _ = 10 ^ (digits - 1) * 10 ^ e := by
          obtain ⟨less, rfl⟩ : ∃ less, digits = less + 1 := ⟨digits - 1, by omega⟩
          rw [Nat.add_sub_cancel, pow_succ, zpow_sub_one₀ (by norm_num)]
          ring
    have hfirst := (nearest_multiple hunit hnear (10 ^ (digits - 1))).1
    push_cast at hfirst
    rw [abs_of_nonneg (a := x - 10 ^ (digits - 1) * 10 ^ e) (by linarith)] at hfirst
    have hlt : |x - k * 10 ^ e| < |x - j * 10 ^ f| :=
      lt_of_lt_of_le (by linarith) (le_abs_self _)
    exact ⟨hlt.le, fun heq => absurd heq hlt.ne⟩

end

-- -----------------------------------------------------------------------------
-- Rounding
-- -----------------------------------------------------------------------------

namespace Decimal

variable {a b : Decimal} {digits : Nat}

def sign (a : Decimal) : Rat :=
  if a.negative then -1 else 1

theorem toRat_eq : a.toRat = a.sign * (a.coefficient * 10 ^ a.exponent) := by
  rw [toRat, sign, mul_assoc]

theorem abs_sign : |a.sign| = 1 := by
  unfold sign
  split <;> simp

theorem exists_signed (c a : Decimal) : ∃ j : Int, j.natAbs = c.coefficient ∧
    c.toRat = a.sign * (j * 10 ^ c.exponent) := by
  by_cases h : c.negative = a.negative
  · refine ⟨c.coefficient, Int.natAbs_natCast _, ?_⟩
    rw [toRat_eq, sign, sign, h]
    rfl
  · refine ⟨-c.coefficient, by rw [Int.natAbs_neg, Int.natAbs_natCast], ?_⟩
    rw [toRat_eq, sign, sign]
    cases hc : c.negative <;> cases ha : a.negative <;> simp_all

theorem round_short (h : digitCount a.coefficient ≤ digits) : a.round digits = a := by
  rw [round, if_pos (Nat.sub_eq_zero_of_le h)]

@[simp]
theorem round_negative : (a.round digits).negative = a.negative := by
  unfold round
  simp only
  split
  · rfl
  · split <;> rfl

def excess (a : Decimal) (digits : Nat) : Nat :=
  digitCount a.coefficient - digits

/-- What rounding keeps of a coefficient, in units of its excess. -/
def kept (a : Decimal) (digits : Nat) : Nat :=
  divHalfEven a.coefficient (10 ^ a.excess digits)

theorem round_long (h : digits < digitCount a.coefficient) : a.round digits =
    if a.kept digits = 10 ^ digits then
      ⟨a.negative, 10 ^ (digits - 1), a.exponent + a.excess digits + 1⟩
    else ⟨a.negative, a.kept digits, a.exponent + a.excess digits⟩ := by
  rw [round, if_neg (by omega)]
  rfl

theorem le_coefficient (hdigits : 0 < digits) (h : digits < digitCount a.coefficient) :
    10 ^ (digits - 1) * 10 ^ a.excess digits ≤ a.coefficient := by
  rw [excess, ← pow_add]
  exact (lt_digitCount_iff (by omega)).mp (by omega)

theorem coefficient_lt (hdigits : 0 < digits) :
    a.coefficient < 10 ^ digits * 10 ^ a.excess digits := by
  rw [excess, ← pow_add]
  exact (digitCount_le_iff (by omega)).mp (by omega)

theorem kept_bounds (hdigits : 0 < digits) (h : digits < digitCount a.coefficient) :
    10 ^ (digits - 1) ≤ a.kept digits ∧ a.kept digits ≤ 10 ^ digits := by
  have hden : 0 < 10 ^ a.excess digits := Nat.pow_pos (by decide)
  have hquotient := divHalfEven_bounds a.coefficient (10 ^ a.excess digits)
  have hfloor : 10 ^ (digits - 1) ≤ a.coefficient / 10 ^ a.excess digits :=
    (Nat.le_div_iff_mul_le hden).mpr (le_coefficient hdigits h)
  have hceiling : a.coefficient / 10 ^ a.excess digits < 10 ^ digits :=
    (Nat.div_lt_iff_lt_mul hden).mpr (coefficient_lt hdigits)
  rw [kept]
  omega

theorem zpow_exponent_excess : (10 : Rat) ^ (a.exponent + a.excess digits) =
    10 ^ a.excess digits * 10 ^ a.exponent := by
  rw [zpow_add₀ (by norm_num), zpow_natCast, mul_comm]

theorem kept_off :
    |(a.coefficient : Rat) * 10 ^ a.exponent -
        a.kept digits * 10 ^ (a.exponent + a.excess digits)| =
      |(a.coefficient : Rat) - a.kept digits * 10 ^ a.excess digits| * 10 ^ a.exponent := by
  have hpos := ten_zpow_pos a.exponent
  rw [zpow_exponent_excess, ← abs_of_pos hpos, ← abs_mul, abs_of_pos hpos]
  ring_nf

/-- `b` keeps so many units of a long decimal `a`, no further off than rounding allows. -/
structure Keeps (digits : Nat) (a b : Decimal) (kept : Nat) (unit : Int) : Prop where
  low : 10 ^ (digits - 1) * 10 ^ unit ≤ (a.coefficient : Rat) * 10 ^ a.exponent
  near : 2 * |(a.coefficient : Rat) * 10 ^ a.exponent - kept * 10 ^ unit| ≤ 10 ^ unit
  tie : 2 * |(a.coefficient : Rat) * 10 ^ a.exponent - kept * 10 ^ unit| = 10 ^ unit → 2 ∣ kept
  value : (b.coefficient : Rat) * 10 ^ b.exponent = kept * 10 ^ unit
  count : digitCount b.coefficient = digits
  even : 2 ≤ digits → 2 ∣ kept → 2 ∣ b.coefficient

theorem round_keeps (hdigits : 0 < digits) (h : digits < digitCount a.coefficient) :
    Keeps digits a (a.round digits) (a.kept digits) (a.exponent + a.excess digits) := by
  have hpos := ten_zpow_pos a.exponent
  have hbounds := kept_bounds hdigits h
  obtain ⟨hnear, htie⟩ :=
    divHalfEven_near a.coefficient (10 ^ a.excess digits) (Nat.pow_pos (by decide))
  rw [← kept] at hnear htie
  push_cast at hnear htie
  constructor
  case low =>
    have hlow := le_coefficient hdigits h
    rw [zpow_exponent_excess, ← mul_assoc]
    exact mul_le_mul_of_nonneg_right (by exact_mod_cast hlow) hpos.le
  case near =>
    rw [kept_off, zpow_exponent_excess, ← mul_assoc]
    exact mul_le_mul_of_nonneg_right hnear hpos.le
  case tie =>
    rw [kept_off, zpow_exponent_excess, ← mul_assoc]
    exact fun heq => htie (mul_right_cancel₀ hpos.ne' heq)
  case value =>
    rw [round_long h]
    split
    · rename_i hcarry
      obtain ⟨less, rfl⟩ : ∃ less, digits = less + 1 := ⟨digits - 1, by omega⟩
      rw [hcarry, zpow_add_one₀ (by norm_num)]
      push_cast
      ring
    · rfl
  case count =>
    rw [round_long h]
    split
    · exact digitCount_eq hdigits le_rfl (Nat.pow_lt_pow_right (by decide) (by omega))
    · rename_i hcarry
      exact digitCount_eq hdigits hbounds.1 (lt_of_le_of_ne hbounds.2 hcarry)
  case even =>
    intro htwo heven
    rw [round_long h]
    split
    · exact dvd_pow (by decide) (by omega)
    · exact heven

/-- Rounding gives the nearest decimal of few digits, a half to the even one. -/
theorem round_isNearest (htwo : 2 ≤ digits) : IsNearest digits a.toRat (a.round digits) := by
  by_cases hshort : digitCount a.coefficient ≤ digits
  · rw [round_short hshort]
    refine ⟨hshort, fun c _ => by simp, fun c _ heq => .inl ?_⟩
    rw [sub_self, abs_zero, eq_comm, abs_eq_zero, sub_eq_zero] at heq
    exact heq.symm
  · have h := round_keeps (by omega) (not_le.mp hshort)
    have hsign : (a.round digits).sign = a.sign := by rw [sign, round_negative, sign]
    have hvalue : (a.round digits).toRat =
        a.sign * (a.kept digits * 10 ^ (a.exponent + a.excess digits)) := by
      rw [toRat_eq, hsign, h.value]
    have hoff (t : Rat) : |a.sign * (a.coefficient * 10 ^ a.exponent) - a.sign * t| =
        |(a.coefficient : Rat) * 10 ^ a.exponent - t| := by
      rw [← mul_sub, abs_mul, abs_sign, one_mul]
    have hcompare (c : Decimal) (hc : digitCount c.coefficient ≤ digits) :
        |a.toRat - (a.round digits).toRat| ≤ |a.toRat - c.toRat| ∧
          (|a.toRat - (a.round digits).toRat| = |a.toRat - c.toRat| →
            c.toRat = (a.round digits).toRat ∨ 2 ∣ a.kept digits) := by
      obtain ⟨j, hj, hc'⟩ := c.exists_signed a
      have hless : j.natAbs < 10 ^ digits := hj ▸ (digitCount_le_iff (by omega)).mp hc
      obtain ⟨hle, htie⟩ :=
        nearest_short (k := a.kept digits) (f := c.exponent) (by omega) h.low h.near hless
      rw [hvalue, hc', toRat_eq, hoff, hoff]
      exact ⟨hle, fun heq => (htie heq).imp (fun hsame => by rw [hsame]; rfl) h.tie⟩
    exact ⟨h.count.le, fun c hc => (hcompare c hc).1,
      fun c hc heq => ((hcompare c hc).2 heq).imp_right (h.even htwo)⟩

end Decimal

end PodPolicy.Numeral
