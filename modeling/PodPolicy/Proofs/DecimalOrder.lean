import Mathlib.Algebra.Order.Field.Power
import Mathlib.Algebra.Order.Ring.Rat
import Mathlib.Algebra.Field.Rat
import Mathlib.Order.Compare
import Mathlib.Tactic.Ring
import PodPolicy.Numeral.Decimal

/-!
# The order of decimals

A decimal stands for a rational number, and decimals compare as the numbers
they stand for (`compare_eq`): signs of zero and trailing zeros do not count.
-/

namespace PodPolicy.Numeral.Decimal

variable {a : Decimal} {unit : Int}

def toRat (a : Decimal) : Rat :=
  (if a.negative then -1 else 1) * a.coefficient * 10 ^ a.exponent

theorem ten_zpow_pos (e : Int) : (0 : Rat) < 10 ^ e :=
  zpow_pos (by decide) e

theorem toRat_eq_inUnits (h : unit ≤ a.exponent) :
    a.toRat = a.inUnits unit * 10 ^ unit := by
  have hshift : (10 : Rat) ^ a.exponent = 10 ^ (a.exponent - unit).toNat * 10 ^ unit := by
    rw [← zpow_natCast, ← zpow_add₀ (by decide), Int.toNat_of_nonneg (by omega)]
    congr 1
    omega
  unfold toRat inUnits
  rw [hshift, Nat.pow_eq]
  split <;> push_cast <;> ring

/-- Both numbers are counted in the smaller of their two units. -/
theorem compare_eq (a b : Decimal) : a.compare b = Ord.compare a.toRat b.toRat := by
  let unit := min a.exponent b.exponent
  have ha : a.toRat = a.inUnits unit * 10 ^ unit :=
    toRat_eq_inUnits (min_le_left a.exponent b.exponent)
  have hb : b.toRat = b.inUnits unit * 10 ^ unit :=
    toRat_eq_inUnits (min_le_right a.exponent b.exponent)
  have hmono : StrictMono fun n : Int => (n : Rat) * 10 ^ unit :=
    Int.cast_strictMono.mul_const (ten_zpow_pos unit)
  rw [ha, hb, ← cmp_eq_compare, hmono.cmp_map_eq, cmp_eq_compare]
  rfl

end PodPolicy.Numeral.Decimal
