import PodPolicy.Proofs.QuantityOrder

/-!
# Quantities written back

A value that was read of a quantity has a text of its own, with an exponent or
without one. `parse_toText`: the text without an exponent is a quantity again, of
the same sign, digits and places, and the text with an exponent is none.
-/

namespace PodPolicy

open Numeral Text

-- -----------------------------------------------------------------------------
-- Layouts
-- -----------------------------------------------------------------------------

namespace Numeral.Decimal

variable {d : Decimal} {whole fraction digits : List Char}

def signChars (negative : Bool) : List Char :=
  if negative then ['-'] else []

/-- Digits around a point, which is left out where none follow it. -/
def aroundPoint (whole fraction : List Char) : List Char :=
  if fraction = [] then whole else whole ++ '.' :: fraction

/-- A decimal without an exponent. All its places stand behind the point, and
zeros are put in front only for one digit to stand before it. -/
structure WrittenOut (d : Decimal) (whole fraction : List Char) : Prop where
  text : d.chars = signChars d.negative ++ aroundPoint whole fraction
  places : d.exponent = -fraction.length
  digits : ∃ zeros, whole ++ fraction = List.replicate zeros '0' ++ Nat.toDigits 10 d.coefficient ∧
    (zeros = 0 ∨ whole = ['0'])
  whole_ne : whole ≠ []

def WrittenScientific (d : Decimal) : Prop :=
  ∃ first rest, Nat.toDigits 10 d.coefficient = first :: rest ∧
    d.chars = signChars d.negative ++ aroundPoint [first] rest ++
      'E' :: (if d.adjusted < 0 then '-' else '+') :: Nat.toDigits 10 d.adjusted.natAbs

theorem pointed_parts (hdigits : digits ≠ []) (places : Nat) : ∃ whole fraction zeros,
    pointed digits places = aroundPoint whole fraction ∧ fraction.length = places ∧
      whole ++ fraction = List.replicate zeros '0' ++ digits ∧ (zeros = 0 ∨ whole = ['0']) ∧
      whole ≠ [] := by
  have hlength : 0 < digits.length := List.length_pos_of_ne_nil hdigits
  by_cases hplaces : places = 0
  · refine ⟨digits, [], 0, ?_, hplaces.symm, by simp, .inl rfl, hdigits⟩
    rw [pointed, if_pos hplaces]
    rfl
  · let zeros := places + 1 - digits.length
    let padded := List.replicate zeros '0' ++ digits
    have hpadded : padded.length = zeros + digits.length := by simp [padded]
    have hfraction : (padded.drop (padded.length - places)).length = places := by
      rw [List.length_drop]
      omega
    refine ⟨padded.take (padded.length - places), padded.drop (padded.length - places), zeros, ?_,
      hfraction, List.take_append_drop .., ?_, ?_⟩
    · have hne := List.ne_nil_of_length_pos (Nat.pos_of_ne_zero (hfraction.trans_ne hplaces))
      rw [pointed, if_neg hplaces, aroundPoint, if_neg hne]
    · by_cases hzeros : zeros = 0
      · exact .inl hzeros
      · -- The digits do not reach to the point, so that a single zero stands before it.
        right
        obtain ⟨more, hmore⟩ : ∃ more, zeros = more + 1 := ⟨zeros - 1, by omega⟩
        have hone : padded.length - places = 1 := by omega
        rw [hone]
        simp [padded, hmore, List.replicate_succ]
    · refine List.ne_nil_of_length_pos ?_
      rw [List.length_take]
      omega

theorem isPlain_iff : d.isPlain = true ↔ d.exponent ≤ 0 ∧ -6 ≤ d.adjusted := by
  simp [isPlain]

theorem exists_writtenOut (hplain : d.exponent ≤ 0 ∧ -6 ≤ d.adjusted) :
    ∃ whole fraction, d.WrittenOut whole fraction := by
  obtain ⟨whole, fraction, zeros, htext, hplaces, hdigits, hzeros, hne⟩ :=
    pointed_parts Nat.toDigits_ne_nil (-d.exponent).toNat
  refine ⟨whole, fraction, ?_, ?_, ⟨zeros, hdigits, hzeros⟩, hne⟩
  · rw [chars, if_pos (isPlain_iff.mpr hplain), htext, signChars]
    split <;> rfl
  · have hexponent := hplain.1
    omega

theorem writtenScientific (hplain : ¬(d.exponent ≤ 0 ∧ -6 ≤ d.adjusted)) : d.WrittenScientific := by
  obtain ⟨first, rest, hdigits⟩ :=
    List.exists_cons_of_ne_nil (Nat.toDigits_ne_nil : Nat.toDigits 10 d.coefficient ≠ [])
  have hpointed : pointed (first :: rest) rest.length = aroundPoint [first] rest := by
    cases rest <;> simp [pointed, aroundPoint]
  refine ⟨first, rest, hdigits, ?_⟩
  rw [chars, if_neg (mt isPlain_iff.mp hplain), hdigits, List.length_cons, Nat.add_sub_cancel,
    hpointed, exponentText, signChars]
  split <;> rfl

theorem digitsValue_zeros (k : Nat) : digitsValue (List.replicate k '0') = 0 := by
  induction k with
  | zero => rfl
  | succ k ih =>
    rw [List.replicate_succ', Quantity.digitsValue_append, ih]
    rfl

namespace WrittenOut

variable (h : d.WrittenOut whole fraction)
include h

theorem isDigit : ∀ c ∈ whole ++ fraction, c.isDigit = true := by
  obtain ⟨zeros, hdigits, -⟩ := h.digits
  intro c hc
  rw [hdigits, List.mem_append] at hc
  rcases hc with hzero | hdigit
  · rw [List.eq_of_mem_replicate hzero]
    rfl
  · exact Quantity.isDigit_toDigits c hdigit

theorem value : digitsValue (whole ++ fraction) = d.coefficient := by
  obtain ⟨zeros, hdigits, -⟩ := h.digits
  rw [hdigits, Quantity.digitsValue_append, digitsValue_zeros, Quantity.digitsValue_toDigits,
    zero_mul, zero_add]

theorem chars_mem : ∀ c ∈ d.chars, c = '-' ∨ c = '.' ∨ c.isDigit = true := by
  intro c hc
  rw [h.text, List.mem_append] at hc
  rcases hc with hsign | hmagnitude
  · rw [signChars] at hsign
    split at hsign
    · exact .inl (List.mem_singleton.mp hsign)
    · cases hsign
  · have hdigit := h.isDigit c
    rw [aroundPoint] at hmagnitude
    split at hmagnitude
    · exact .inr (.inr (hdigit (List.mem_append_left _ hmagnitude)))
    · rw [List.mem_append, List.mem_cons] at hmagnitude
      rw [List.mem_append] at hdigit
      tauto

end WrittenOut

end Numeral.Decimal

-- -----------------------------------------------------------------------------
-- Reading what was written
-- -----------------------------------------------------------------------------

namespace Quantity

variable {q : String} {v : Value} {d : Decimal} {negative : Bool} {whole fraction : List Char}
  {suffix : Option Suffix}

theorem isQuantity_toText (h : d.WrittenOut whole fraction) :
    IsQuantity d.toText d.negative whole fraction none := by
  have hdigits : AllDigits (whole ++ fraction) := fun c hc =>
    isDigit_of_digitValue? (digitValue?_ascii (h.isDigit c hc))
  have htext : d.toText.toList = d.chars := String.toList_ofList
  have hmagnitude : IsMagnitude (Decimal.aroundPoint whole fraction) whole fraction := by
    have hwhole : AllDigits whole := fun c hc => hdigits c (List.mem_append_left _ hc)
    have hfraction : AllDigits fraction := fun c hc => hdigits c (List.mem_append_right _ hc)
    rw [Decimal.aroundPoint]
    split
    · rename_i hnone
      rw [hnone]
      exact .whole h.whole_ne hwhole
    · exact .pointed h.whole_ne hwhole hfraction
  refine ⟨d.toText.toList, splits_none ?chars, Decimal.aroundPoint whole fraction, [], ?signed,
    hmagnitude, .inl rfl⟩
  case chars =>
    rw [htext]
    exact h.chars_mem
  case signed =>
    rw [htext, h.text, List.append_nil, Decimal.signChars]
    cases d.negative with
    | false => exact .bare
    | true => exact .minus

theorem parse_writtenOut (h : d.WrittenOut whole fraction)
    (hshort : digitCount d.coefficient ≤ 28) : parse d.toText = .ok d := by
  have hplaces : places none = 0 := rfl
  have hexact : (reading d.negative whole fraction none).exact = d := by
    rw [exact_reading, h.value, scale, mul_one, hplaces, Nat.cast_zero, sub_zero, ← h.places]
  rw [parse_of_isQuantity (isQuantity_toText h), Reading.value, hexact]
  exact congrArg Except.ok (Decimal.round_short hshort)

theorem AllDigits.no_exponent {cs : List Char} (h : AllDigits cs) : 'E' ∉ cs :=
  fun hmem => absurd (h 'E' hmem) (by decide)

theorem IsNumber.no_exponent {number : List Char} (h : IsNumber number negative whole fraction) :
    'E' ∉ number := by
  obtain ⟨magnitude, lineEnd, hsigned, hmagnitude, hend⟩ := h
  have hmagnitude : 'E' ∉ magnitude := by
    cases hmagnitude with
    | whole hne hds => exact hds.no_exponent
    | pointed hne hds hes => simp [hds.no_exponent, hes.no_exponent]
    | fraction hne hes => simp [hes.no_exponent]
  have hrest : 'E' ∉ magnitude ++ lineEnd := by
    rcases hend with rfl | rfl <;> simp [hmagnitude]
  cases hsigned with
  | bare => exact hrest
  | plus => simp [hrest]
  | minus => simp [hrest]

theorem IsQuantity.no_exponent (h : IsQuantity q negative whole fraction suffix) :
    'E' ∉ q.toList := by
  obtain ⟨number, hsplits, hnumber⟩ := h
  cases suffix with
  | none => exact hsplits.1 ▸ hnumber.no_exponent
  | some s =>
    have hsuffix : 'E' ∉ s.chars := by cases s <;> decide
    rw [show q.toList = number ++ s.chars from hsplits, List.mem_append]
    exact not_or.mpr ⟨hnumber.no_exponent, hsuffix⟩

theorem parse_writtenScientific (h : d.WrittenScientific) :
    parse d.toText = .error ⟨.text d.toText, .notDecimal⟩ := by
  refine parse_of_not_isQuantity fun negative whole fraction suffix hq => ?_
  obtain ⟨first, rest, -, htext⟩ := h
  have hmark : 'E' ∈ d.toText.toList := by
    rw [Decimal.toText, String.toList_ofList, htext]
    simp
  exact hq.no_exponent hmark

theorem parse_short (h : parse q = .ok d) : digitCount d.coefficient ≤ 28 := by
  rw [parse] at h
  split at h
  · cases h
    exact (Decimal.round_isNearest (by decide)).short
  · cases h

theorem parseValue_short (h : parseValue v = .ok d) : digitCount d.coefficient ≤ 28 := by
  cases v with
  | text s => exact parse_short h
  | int n => exact parse_short h
  | double x => exact parse_short h
  | _ => cases h

theorem compare_same (h : parse q = .ok d) (h' : parseValue v = .ok d) :
    compare (.text q) v = .ok .eq := by
  have hsame : d.compare d = .eq := by
    rw [Decimal.compare_eq]
    exact compare_eq_iff_eq.mpr rfl
  rw [compare, parseValue, h, h', ← hsame]
  rfl

/-- The text of a value that was read of a quantity. Without an exponent it is
read as that very value, with its sign, digits and places, and compares equal to the
quantity. With an exponent it is refused. -/
theorem parse_toText (h : parseValue v = .ok d) :
    digitCount d.coefficient ≤ 28 ∧
    (d.exponent ≤ 0 ∧ -6 ≤ d.adjusted →
      (∃ whole fraction, d.WrittenOut whole fraction) ∧
      parseValue (.text d.toText) = .ok d ∧ compare (.text d.toText) v = .ok .eq) ∧
    (¬(d.exponent ≤ 0 ∧ -6 ≤ d.adjusted) →
      d.WrittenScientific ∧
      parseValue (.text d.toText) = .error ⟨.text d.toText, .notDecimal⟩) := by
  have hshort := parseValue_short h
  refine ⟨hshort, fun hplain => ?plain, fun hplain => ?scientific⟩
  case plain =>
    obtain ⟨whole, fraction, hwritten⟩ := Decimal.exists_writtenOut hplain
    have hparse := parse_writtenOut hwritten hshort
    exact ⟨⟨whole, fraction, hwritten⟩, hparse, compare_same hparse h⟩
  case scientific =>
    have hwritten := Decimal.writtenScientific hplain
    exact ⟨hwritten, parse_writtenScientific hwritten⟩

/-- Zeros at the end and the sign are kept, of a zero too. A zero with seven places
is written with an exponent. -/
theorem parse_paddedTexts :
    (parseValue (.text "-0.0500Gi") = .ok ⟨true, 536870912000, -4⟩ ∧
      parseValue (.text "-53687091.2000") = .ok ⟨true, 536870912000, -4⟩ ∧
      compare (.text "-53687091.2000") (.text "-0.0500Gi") = .ok .eq) ∧
    (parseValue (.text "-.00m") = .ok ⟨true, 0, -5⟩ ∧
      parseValue (.text "-0.00000") = .ok ⟨true, 0, -5⟩) ∧
    parseValue (.text "0.0000000") = .ok ⟨false, 0, -7⟩ ∧
      parseValue (.text "0E-7") = .error ⟨.text "0E-7", .notDecimal⟩ := by
  have hplaces : parseValue (.text "-0.0500Gi") = .ok ⟨true, 536870912000, -4⟩ := rfl
  have hzero : parseValue (.text "-.00m") = .ok ⟨true, 0, -5⟩ := rfl
  have hlong : parseValue (.text "0.0000000") = .ok ⟨false, 0, -7⟩ := rfl
  obtain ⟨-, hparse, hcompare⟩ := (parse_toText hplaces).2.1 (by decide)
  obtain ⟨-, hzero', -⟩ := (parse_toText hzero).2.1 (by decide)
  obtain ⟨-, hrefused⟩ := (parse_toText hlong).2.2 (by decide)
  exact ⟨⟨hplaces, hparse, hcompare⟩, ⟨hzero, hzero'⟩, hlong, hrefused⟩

end Quantity

end PodPolicy
