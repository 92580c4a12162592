import PodPolicy.Manifest.Scalar
import PodPolicy.Json.Reader
import PodPolicy.Proofs.ExceptLaws
import Mathlib.Data.List.Induction
import Mathlib.Tactic.Linarith

/-!
# How long numbers get

Text that is read as an integer has no more digits than can be told, and a
double that stands for an integer stands for a short one. `readInt_tellable`:
only an integer of the document itself can be too long. JSON that holds a longer one
is not read.
-/

namespace PodPolicy

open Text

namespace Numeral

theorem isTellable_iff {n : Int} : isTellable n = true ↔ n.natAbs < tellingLimit := by
  simp [isTellable]

theorem isTellable_tellingLimit : isTellable tellingLimit = false := by
  rw [Bool.eq_false_iff, ne_eq, isTellable_iff, Int.natAbs_natCast]
  exact lt_irrefl _

theorem pow_le_tellingLimit {k : Nat} (h : k ≤ maxDecimalDigits) : 10 ^ k ≤ tellingLimit := by
  unfold tellingLimit
  generalize maxDecimalDigits = limit at *
  exact Nat.pow_le_pow_right (by decide) h

theorem isTellable_of_natAbs {n : Int} {k : Nat} (hn : n.natAbs < 10 ^ k)
    (hk : k ≤ maxDecimalDigits) : isTellable n = true :=
  isTellable_iff.mpr (lt_of_lt_of_le hn (pow_le_tellingLimit hk))

theorem natAbs_signed {negative : Bool} {n : Nat} : (signed negative n).natAbs = n := by
  cases negative <;> simp [signed]

theorem ofDigits_lt {base : Nat} {digits : List Nat} (h : ∀ d ∈ digits, d < base) :
    ofDigits base digits < base ^ digits.length := by
  induction digits using List.reverseRecOn with
  | nil => simp [ofDigits]
  | append_singleton digits d ih =>
    have hd := h d (by simp)
    have hdigits := ih fun e he => h e (by simp [he])
    simp only [ofDigits, List.foldl_append, List.foldl_cons, List.foldl_nil] at hdigits ⊢
    rw [List.length_append, List.length_singleton, pow_succ]
    nlinarith

end Numeral

namespace Text

theorem digitValue?_lt {c : Char} : (digitValue? c).getD 0 < 10 := by
  unfold digitValue?
  cases h : digitZeros.find? fun start => start ≤ c.toNat ∧ c.toNat < start + 10 with
  | none => simp
  | some start =>
    have hstart := List.find?_some h
    simp only [decide_eq_true_eq] at hstart
    simp only [Option.map_some, Option.getD_some]
    omega

theorem digitsValue_lt (cs : List Char) : digitsValue cs < 10 ^ cs.length := by
  induction cs using List.reverseRecOn with
  | nil => simp [digitsValue]
  | append_singleton cs c ih =>
    have hc := @digitValue?_lt c
    simp only [digitsValue, List.foldl_append, List.foldl_cons, List.foldl_nil] at ih ⊢
    rw [List.length_append, List.length_singleton, pow_succ]
    omega

end Text

-- -----------------------------------------------------------------------------
-- Integers in manifests
-- -----------------------------------------------------------------------------

namespace Numeral

variable {cs : List Char} {n : Int}

theorem asciiDigit?_lt {c : Char} {d : Nat} (h : asciiDigit? c = some d) : d < 10 := by
  unfold asciiDigit? at h
  split at h
  · rename_i hc
    cases h
    have hle : c.toNat ≤ '9'.toNat := hc.2
    have hnine : '9'.toNat = 57 := rfl
    have hzero : '0'.toNat = 48 := rfl
    omega
  · cases h

theorem readBareNatural_lt {k : Nat} (h : readBareNatural cs = .ok k) : k < tellingLimit := by
  unfold readBareNatural at h
  split at h
  · cases h
    exact Nat.lt_of_lt_of_le Nat.one_pos (pow_le_tellingLimit (Nat.zero_le _))
  · rename_i c rest _
    split at h
    · simp only at h
      split at h
      · cases h
      · rename_i hlength
        split at h
        · rename_i hall
          cases h
          have hdigits : ∀ d ∈ (c :: rest).filterMap asciiDigit?, d < 10 := by
            intro d hd
            obtain ⟨e, -, he⟩ := List.mem_filterMap.mp hd
            exact asciiDigit?_lt he
          have hfewer := List.length_filterMap_le asciiDigit? (c :: rest)
          exact lt_of_lt_of_le (ofDigits_lt hdigits) (pow_le_tellingLimit (by omega))
        · cases h
    · cases h
  · cases h

theorem readBareInteger_tellable (h : readBareInteger cs = .ok n) : isTellable n = true := by
  rw [isTellable_iff]
  unfold readBareInteger at h
  split at h
  · obtain ⟨_, hcast, rfl⟩ := map_ok.mp h
    obtain ⟨k, hk, hcast⟩ := bind_ok.mp hcast
    cases pure_ok.mp hcast
    rw [Int.natAbs_neg]
    exact readBareNatural_lt hk
  · obtain ⟨_, hcast, rfl⟩ := map_ok.mp h
    obtain ⟨k, hk, hcast⟩ := bind_ok.mp hcast
    cases pure_ok.mp hcast
    exact readBareNatural_lt hk

theorem readPlainInteger_tellable {s : String} (h : readPlainInteger s = .ok n) :
    isTellable n = true := by
  unfold readPlainInteger at h
  split at h
  · split at h
    · exact readBareInteger_tellable h
    · cases h
  · exact readBareInteger_tellable h

end Numeral

namespace Scalar

open Numeral

variable {n : Int}

theorem readIntText_tellable {s : String} (h : readIntText s = .ok n) : isTellable n = true := by
  unfold readIntText at h
  split at h
  · cases h
    exact readPlainInteger_tellable ‹_›
  · cases h
  · cases h

theorem isTellable_of_word (h : -wordLimit < n ∧ n < wordLimit) : isTellable n = true := by
  have hword : wordLimit < 10 ^ 19 := by decide
  exact isTellable_of_natAbs (by omega) (by decide : 19 ≤ maxDecimalDigits)

theorem readIntDouble_tellable {d : Double} (h : readIntDouble d = .ok n) :
    isTellable n = true := by
  unfold readIntDouble at h
  split at h
  · split at h
    · cases h
    · split at h
      · rename_i hword
        cases h
        exact isTellable_of_word hword
      · cases h
  · cases h

/-- Only an integer that is read as it is can be too long. -/
theorem readInt_tellable {v : Value} (hv : ∀ m, v = .int m → isTellable m = true)
    (h : readInt v = .ok n) : isTellable n = true := by
  cases v with
  | bool b =>
    cases h
    exact isTellable_of_word (by cases b <;> decide)
  | int m =>
    cases h
    exact hv _ rfl
  | double d => exact readIntDouble_tellable h
  | text s => exact readIntText_tellable h
  | bytes octets =>
    simp only [readInt] at h
    split at h
    · exact readIntText_tellable h
    · cases h
  | _ => cases h

end Scalar

-- -----------------------------------------------------------------------------
-- Numbers in JSON
-- -----------------------------------------------------------------------------

namespace Json

open Numeral

variable {cs rest : List Char} {v : Value}

theorem readNumber_tellable (h : readNumber cs = .ok (v, rest)) : v.isTellable = true := by
  unfold readNumber at h
  -- The sign, the whole part, the fraction and the power, in the reader's order.
  split at h
  split at h
  · cases h
  · split at h
    split at h
    split at h
    · split at h
      · cases h
      · rename_i hlength
        obtain ⟨rfl, -⟩ := Prod.mk.inj (Except.ok.inj h)
        rw [Value.isTellable]
        refine isTellable_of_natAbs ?_ (Nat.le_of_not_lt hlength)
        rw [natAbs_signed]
        exact digitsValue_lt _
    · obtain ⟨rfl, -⟩ := Prod.mk.inj (Except.ok.inj h)
      rw [Value.isTellable]
      all_goals nofun

/-- An integer of more digits than can be told is not read. -/
theorem readNumber_tooLong {c : Char} {digits : List Char} (hc : isAsciiDigit c = true)
    (hzero : c ≠ '0') (hdigits : ∀ d ∈ digits, isAsciiDigit d = true)
    (hlong : maxDecimalDigits ≤ digits.length) :
    readNumber (c :: (digits ++ ',' :: rest)) =
      .error ⟨.tooManyDigits, c :: (digits ++ ',' :: rest)⟩ := by
  have hwhole : splitWhole (c :: (digits ++ ',' :: rest)) = some (c :: digits, ',' :: rest) := by
    have hcomma : isAsciiDigit ',' = false := by decide
    have hall : ∀ d ∈ c :: digits, isAsciiDigit d = true := List.forall_mem_cons.mpr ⟨hc, hdigits⟩
    unfold splitWhole
    split
    · rename_i heq
      cases heq
      exact absurd rfl hzero
    · rename_i heq
      cases heq
      rw [if_pos hc, splitDigits, ← List.cons_append, List.takeWhile_append_of_pos hall,
        List.dropWhile_append_of_pos hall]
      simp [hcomma]
    · contradiction
  have hfraction : splitFraction (',' :: rest) = ([], ',' :: rest) := rfl
  have hpower : splitPower (',' :: rest) = (none, ',' :: rest) := by simp [splitPower]
  have hlonger : maxDecimalDigits < (c :: digits).length := by
    rw [List.length_cons]
    omega
  unfold readNumber
  split
  rename_i negative body hsign
  split at hsign
  · rename_i heq
    cases heq
    exact absurd hc (by decide)
  · cases hsign
    rw [hwhole]
    simp only [hfraction, hpower]
    exact (if_pos rfl).trans (if_pos hlonger)

end Json

end PodPolicy
