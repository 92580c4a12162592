import PodPolicy.Proofs.QuantityReading

/-!
# The order of quantities

Quantities are compared by their rounded values. Rounding depends on the number
alone and is monotone (`Decimal.round_congr`, `Decimal.round_mono`), so that a
comparison may take different numbers for equal but never turns them around.
`compare_ordered`: it is a total preorder that does not contradict the order of the
numbers that are written, and it is that order where both have few digits.
-/

namespace PodPolicy

namespace Numeral

-- -----------------------------------------------------------------------------
-- Rounding depends on the number alone
-- -----------------------------------------------------------------------------

theorem divHalfEven_mul_right {num den k : Nat} (hk : 0 < k) :
    divHalfEven (num * k) (den * k) = divHalfEven num den := by
  have hlow : 2 * (num % den * k) < den * k ↔ 2 * (num % den) < den := by
    rw [← mul_assoc, Nat.mul_lt_mul_right hk]
  have hhigh : den * k < 2 * (num % den * k) ↔ den < 2 * (num % den) := by
    rw [← mul_assoc, Nat.mul_lt_mul_right hk]
  simp only [divHalfEven, Nat.mul_div_mul_right _ _ hk, Nat.mul_mod_mul_right, hlow, hhigh]

theorem digitCount_mul_pow {n : Nat} (k : Nat) (hn : 0 < n) :
    digitCount (n * 10 ^ k) = digitCount n + k := by
  have hpos : 0 < digitCount n := Nat.length_toDigits_pos
  have hhigh : n < 10 ^ digitCount n := (digitCount_le_iff hpos).mp le_rfl
  have hlow : 10 ^ (digitCount n - 1) ≤ n := by
    by_cases hone : digitCount n = 1
    · rw [hone]
      exact hn
    · exact (lt_digitCount_iff (by omega)).mp (by omega)
  have hsum : digitCount n + k - 1 = digitCount n - 1 + k := by omega
  refine digitCount_eq (by omega) ?_ ?_
  · rw [hsum, pow_add]
    exact Nat.mul_le_mul_right _ hlow
  · rw [pow_add]
    exact Nat.mul_lt_mul_of_pos_right hhigh (Nat.pow_pos (by decide))

namespace Decimal

variable {a b : Decimal} {digits : Nat}

def padded (a : Decimal) (k : Nat) : Decimal :=
  ⟨a.negative, a.coefficient * 10 ^ k, a.exponent - k⟩

theorem eq_padded (h : a.toRat = b.toRat) (hpos : 0 < a.coefficient)
    (hle : a.exponent ≤ b.exponent) : a = b.padded (b.exponent - a.exponent).toNat := by
  have hunits : a.inUnits a.exponent = b.inUnits a.exponent := by
    rw [toRat_eq_inUnits le_rfl, toRat_eq_inUnits hle] at h
    exact_mod_cast mul_right_cancel₀ (ten_zpow_pos a.exponent).ne' h
  obtain ⟨aNegative, aCoefficient, aExponent⟩ := a
  obtain ⟨bNegative, bCoefficient, bExponent⟩ := b
  simp only at hpos hle
  have hexponent : aExponent = bExponent - (bExponent - aExponent).toNat := by omega
  simp only [inUnits, sub_self, Int.toNat_zero, Nat.pow_eq, pow_zero, mul_one] at hunits
  simp only [padded, mk.injEq]
  generalize bCoefficient * 10 ^ (bExponent - aExponent).toNat = scaled at hunits ⊢
  refine ⟨?_, ?_, hexponent⟩ <;> cases aNegative <;> cases bNegative <;> simp at hunits ⊢ <;> omega

theorem round_padded (hdigits : 0 < digits) (h : digits < digitCount a.coefficient) (k : Nat) :
    (a.padded k).round digits = a.round digits := by
  have hpos : 0 < a.coefficient :=
    lt_of_lt_of_le (Nat.pow_pos (by decide)) ((lt_digitCount_iff hdigits).mp h)
  have hcount : digitCount (a.padded k).coefficient = digitCount a.coefficient + k :=
    digitCount_mul_pow k hpos
  have hexcess : (a.padded k).excess digits = a.excess digits + k := by
    rw [excess, hcount, excess]
    omega
  have hkept : (a.padded k).kept digits = a.kept digits := by
    rw [kept, hexcess, pow_add]
    exact divHalfEven_mul_right (Nat.pow_pos (by decide))
  have hunit : (a.padded k).exponent + (a.padded k).excess digits =
      a.exponent + a.excess digits := by
    rw [hexcess, padded]
    push_cast
    ring
  rw [round_long h, round_long (by omega), hkept, hunit]
  rfl

theorem IsNearest.eq_of_short {x : Rat} (h : b.IsNearest digits x)
    (hshort : digitCount a.coefficient ≤ digits) (ha : a.toRat = x) : b.toRat = x := by
  have hle := h.nearest a hshort
  rw [ha, sub_self, abs_zero] at hle
  exact (sub_eq_zero.mp (abs_nonpos_iff.mp hle)).symm

theorem round_congr (htwo : 2 ≤ digits) (h : a.toRat = b.toRat) :
    (a.round digits).toRat = (b.round digits).toRat := by
  have hshort {c d : Decimal} (hc : digitCount c.coefficient ≤ digits) (heq : c.toRat = d.toRat) :
      (c.round digits).toRat = (d.round digits).toRat := by
    rw [round_short hc, (round_isNearest htwo).eq_of_short hc heq, heq]
  have hlong {c d : Decimal} (hc : digits < digitCount c.coefficient)
      (hd : digits < digitCount d.coefficient) (heq : c.toRat = d.toRat)
      (hle : c.exponent ≤ d.exponent) : c.round digits = d.round digits := by
    have hpos : 0 < c.coefficient :=
      lt_of_lt_of_le (Nat.pow_pos (by decide)) ((lt_digitCount_iff (by omega)).mp hc)
    rw [eq_padded heq hpos hle, round_padded (by omega) hd]
  rcases le_or_gt (digitCount a.coefficient) digits with ha | ha
  · exact hshort ha h
  · rcases le_or_gt (digitCount b.coefficient) digits with hb | hb
    · exact (hshort hb h.symm).symm
    · rcases le_total a.exponent b.exponent with hle | hle
      · rw [hlong ha hb h hle]
      · rw [hlong hb ha h.symm hle]

/-- Numbers that are nearest to two others are in their order. -/
theorem IsNearest.mono {x y : Rat} (ha : a.IsNearest digits x) (hb : b.IsNearest digits y)
    (hlt : x < y) : a.toRat ≤ b.toRat := by
  by_contra hcross
  have hcross := not_le.mp hcross
  have hx := sq_le_sq.mpr (ha.nearest b hb.short)
  have hy := sq_le_sq.mpr (hb.nearest a ha.short)
  -- The middle between the two is at most `x` and at least `y`.
  have hmiddle : a.toRat + b.toRat ≤ 2 * x := by nlinarith only [hx, hcross]
  have hmiddle' : 2 * y ≤ a.toRat + b.toRat := by nlinarith only [hy, hcross]
  linarith

theorem round_mono (htwo : 2 ≤ digits) (h : a.toRat ≤ b.toRat) :
    (a.round digits).toRat ≤ (b.round digits).toRat := by
  rcases h.lt_or_eq with hlt | heq
  · exact (round_isNearest htwo).mono (round_isNearest htwo) hlt
  · exact (round_congr htwo heq).le

def FitsIn (digits : Nat) (x : Rat) : Prop :=
  ∃ a : Decimal, digitCount a.coefficient ≤ digits ∧ a.toRat = x

theorem FitsIn.round_eq {x : Rat} (h : FitsIn digits x) (htwo : 2 ≤ digits) (ha : a.toRat = x) :
    (a.round digits).toRat = x := by
  obtain ⟨c, hshort, hc⟩ := h
  exact (ha ▸ round_isNearest htwo).eq_of_short hshort hc

end Decimal

end Numeral

-- -----------------------------------------------------------------------------
-- Quantities
-- -----------------------------------------------------------------------------

namespace Quantity

open Numeral Text

/-- A value that is read as a quantity, and the number that it writes, not rounded. -/
def Writes (v : Value) (x : Rat) : Prop :=
  ∃ q negative whole fraction suffix, textOf? v = some q ∧
    IsQuantity q negative whole fraction suffix ∧
      x = amount negative whole fraction * factor suffix

def IsAccepted (v : Value) : Prop :=
  ∃ x, Writes v x

variable {a b c : Value} {x y : Rat} {p q : String}

theorem parseValue_text (h : textOf? a = some p) : parseValue a = parse p := by
  cases a <;> cases h <;> rfl

theorem Writes.parseValue (h : Writes a x) :
    ∃ exact : Decimal, exact.toRat = x ∧ parseValue a = .ok (exact.round 28) := by
  obtain ⟨q, negative, whole, fraction, suffix, htext, hq, rfl⟩ := h
  refine ⟨(reading negative whole fraction suffix).exact, toRat_reading, ?_⟩
  rw [parseValue_text htext, parse_of_isQuantity hq]
  rfl

theorem parseValue_refused (htext : textOf? a = some p) (h : ¬IsAccepted a) :
    parseValue a = .error ⟨.text p, .notDecimal⟩ := by
  rw [parseValue_text htext]
  exact parse_of_not_isQuantity fun negative whole fraction suffix hq =>
    h ⟨_, p, negative, whole, fraction, suffix, htext, hq, rfl⟩

theorem Writes.compare (ha : Writes a x) (hb : Writes b y) {left right : Decimal}
    (hleft : left.toRat = x) (hright : right.toRat = y) :
    compare a b = .ok (Ord.compare (left.round 28).toRat (right.round 28).toRat) := by
  obtain ⟨left', hleft', ha⟩ := ha.parseValue
  obtain ⟨right', hright', hb⟩ := hb.parseValue
  have hl : (left.round 28).toRat = (left'.round 28).toRat :=
    Decimal.round_congr (by decide) (hleft.trans hleft'.symm)
  have hr : (right.round 28).toRat = (right'.round 28).toRat :=
    Decimal.round_congr (by decide) (hright.trans hright'.symm)
  rw [hl, hr, ← Decimal.compare_eq, Quantity.compare, ha, hb]
  rfl

theorem compare_refused (ha : textOf? a = some p) (hb : textOf? b = some q) {e : Error} :
    compare a b = .error e ↔ ¬IsAccepted a ∧ e = ⟨.text p, .notDecimal⟩ ∨
      IsAccepted a ∧ ¬IsAccepted b ∧ e = ⟨.text q, .notDecimal⟩ := by
  by_cases hleft : IsAccepted a
  · obtain ⟨x, hx⟩ := id hleft
    obtain ⟨left, hl, hparse⟩ := hx.parseValue
    by_cases hright : IsAccepted b
    · obtain ⟨y, hy⟩ := id hright
      obtain ⟨right, hr, -⟩ := hy.parseValue
      rw [hx.compare hy hl hr]
      simp [hleft, hright]
    · have hcompare : compare a b = .error ⟨.text q, .notDecimal⟩ := by
        rw [Quantity.compare, hparse, parseValue_refused hb hright]
        rfl
      rw [hcompare]
      simp [hleft, hright, eq_comm]
  · have hcompare : compare a b = .error ⟨.text p, .notDecimal⟩ := by
      rw [Quantity.compare, parseValue_refused ha hleft]
      rfl
    rw [hcompare]
    simp [hleft, eq_comm]

/-- Comparison never contradicts the order of the numbers that are written, and is
that order where both have at most 28 digits. It is a total preorder on what is
accepted. The first of two texts that is not accepted is the one that is refused. -/
theorem compare_ordered (a b c : Value) :
    (∀ x y, Writes a x → Writes b y → ∃ order, compare a b = .ok order ∧
      compare b a = .ok order.swap ∧ exceeds a b = .ok (order == .gt) ∧
      (x ≤ y → order ≠ .gt) ∧ (x = y → order = .eq) ∧
      (Decimal.FitsIn 28 x → Decimal.FitsIn 28 y → order = Ord.compare x y)) ∧
    (IsAccepted a → IsAccepted b → IsAccepted c → ∃ first second third,
      compare a b = .ok first ∧ compare b c = .ok second ∧ compare a c = .ok third ∧
        (first ≠ .gt → second ≠ .gt → third ≠ .gt)) ∧
    ∀ p q, textOf? a = some p → textOf? b = some q → ∀ e, compare a b = .error e ↔
      ¬IsAccepted a ∧ e = ⟨.text p, .notDecimal⟩ ∨
        IsAccepted a ∧ ¬IsAccepted b ∧ e = ⟨.text q, .notDecimal⟩ := by
  refine ⟨fun x y ha hb => ?ordered, ?transitive, fun p q ha hb e => compare_refused ha hb⟩
  case ordered =>
    obtain ⟨left, hleft, -⟩ := ha.parseValue
    obtain ⟨right, hright, -⟩ := hb.parseValue
    have hab := ha.compare hb hleft hright
    refine ⟨_, hab, ?swap, ?exceeds, fun hle => ?le, fun heq => ?eq, fun hx hy => ?short⟩
    case swap => rw [hb.compare ha hright hleft, ← cmp_eq_compare, ← cmp_eq_compare, cmp_swap]
    case exceeds =>
      rw [exceeds, hab]
      rfl
    case le =>
      rw [← hleft, ← hright] at hle
      exact compare_le_iff_le.mpr (Decimal.round_mono (by decide) hle)
    case eq =>
      rw [← hleft, ← hright] at heq
      exact compare_eq_iff_eq.mpr (Decimal.round_congr (by decide) heq)
    case short => rw [hx.round_eq (by decide) hleft, hy.round_eq (by decide) hright]
  case transitive =>
    rintro ⟨x, ha⟩ ⟨y, hb⟩ ⟨z, hc⟩
    obtain ⟨left, hleft, -⟩ := ha.parseValue
    obtain ⟨middle, hmiddle, -⟩ := hb.parseValue
    obtain ⟨right, hright, -⟩ := hc.parseValue
    refine ⟨_, _, _, ha.compare hb hleft hmiddle, hb.compare hc hmiddle hright,
      ha.compare hc hleft hright, fun hfirst hsecond => ?_⟩
    rw [compare_le_iff_le] at hfirst hsecond ⊢
    exact hfirst.trans hsecond

theorem writes_int (n : Int) : Writes (.int n) n :=
  ⟨toString n, decide (n < 0), Nat.toDigits 10 n.natAbs, [], none, rfl, isQuantity_toString n, by
    rw [amount_toDigits, factor, mul_one]⟩

theorem writes_mebi : Writes (.text "2048Mi") ((2 ^ 31 : Int) : Rat) := by
  have hdigits : digitsValue ['2', '0', '4', '8'] = 2048 := rfl
  have hnone : digitsValue [] = 0 := rfl
  refine ⟨"2048Mi", false, ['2', '0', '4', '8'], [], some .mebi, rfl, ⟨['2', '0', '4', '8'], rfl,
    ['2', '0', '4', '8'], [], .bare, .whole (by decide) ?_, .inl rfl⟩, ?_⟩
  · exact List.all_eq_true.mp (by decide)
  · norm_num [amount, factor, hdigits, hnone]

theorem fitsIn_int {n : Int} (h : n.natAbs < 10 ^ 28) : Decimal.FitsIn 28 n := by
  refine ⟨_, ?_, toRat_number.trans (amount_toDigits n)⟩
  rw [List.append_nil, digitsValue_toDigits]
  exact (digitCount_le_iff (by decide)).mpr h

/-- A number of 28 digits is not over the next one, though both are rounded to it.
Equal numbers compare equal in all spellings, and short ones as what they are. Of
two texts the first is refused. -/
theorem compare_closeNumbers :
    (Writes (.int (10 ^ 28)) ((10 ^ 28 : Int) : Rat) ∧
      Writes (.int (10 ^ 28 + 1)) ((10 ^ 28 + 1 : Int) : Rat) ∧
      exceeds (.int (10 ^ 28)) (.int (10 ^ 28 + 1)) = .ok false ∧
      compare (.int (10 ^ 28)) (.int (10 ^ 28 + 1)) = .ok .eq) ∧
    (Writes (.text "2048Mi") ((2 ^ 31 : Int) : Rat) ∧
      compare (.text "2048Mi") (.int (2 ^ 31)) = .ok .eq) ∧
    (Decimal.FitsIn 28 ((-5 : Int) : Rat) ∧ Decimal.FitsIn 28 ((2 ^ 31 : Int) : Rat) ∧
      compare (.int (-5)) (.text "2048Mi") = .ok .lt) ∧
    (∃ third, compare (.int (-5)) (.int (10 ^ 28)) = .ok third ∧ third ≠ .gt) ∧
    ¬IsAccepted (.text "1e3") ∧
      compare (.text "1e3") (.text "") = .error ⟨.text "1e3", .notDecimal⟩ := by
  have hrefused : ¬IsAccepted (.text "1e3") := by
    rintro ⟨x, hx⟩
    obtain ⟨_, -, hparse⟩ := hx.parseValue
    cases hparse
  refine ⟨⟨writes_int _, writes_int _, ?close, rfl⟩, ⟨writes_mebi, ?equal⟩,
    ⟨fitsIn_int (by decide), fitsIn_int (by decide), ?short⟩, ?transitive, hrefused, ?refused⟩
  case close =>
    obtain ⟨order, -, -, hexceeds, hle, -⟩ :=
      (compare_ordered (.int (10 ^ 28)) (.int (10 ^ 28 + 1)) .null).1 _ _ (writes_int _)
        (writes_int _)
    have hover : order ≠ .gt := hle (by norm_num)
    rw [hexceeds, beq_eq_false_iff_ne.mpr hover]
  case equal =>
    obtain ⟨order, hcompare, -, -, -, heq, -⟩ :=
      (compare_ordered (.text "2048Mi") (.int (2 ^ 31)) .null).1 _ _ writes_mebi (writes_int _)
    rw [hcompare, heq rfl]
  case short =>
    obtain ⟨order, hcompare, -, -, -, -, hshort⟩ :=
      (compare_ordered (.int (-5)) (.text "2048Mi") .null).1 _ _ (writes_int _) writes_mebi
    rw [hcompare, hshort (fitsIn_int (by decide)) (fitsIn_int (by decide)),
      compare_lt_iff_lt.mpr (by norm_num)]
  case transitive =>
    obtain ⟨first, second, third, hfirst, hsecond, hthird, htrans⟩ :=
      (compare_ordered (.int (-5)) (.text "2048Mi") (.int (10 ^ 28))).2.1 ⟨_, writes_int _⟩
        ⟨_, writes_mebi⟩ ⟨_, writes_int _⟩
    cases hfirst
    cases hsecond
    exact ⟨third, hthird, htrans nofun nofun⟩
  case refused =>
    exact ((compare_ordered (.text "1e3") (.text "") .null).2.2 _ _ rfl rfl _).mpr
      (.inl ⟨hrefused, rfl⟩)

end Quantity

end PodPolicy
