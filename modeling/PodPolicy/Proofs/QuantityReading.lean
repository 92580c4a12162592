import Mathlib.Data.List.Induction
import Mathlib.Data.List.TakeWhile
import Mathlib.Tactic.FieldSimp
import PodPolicy.Quantity
import PodPolicy.Proofs.DecimalRounding

/-!
# What quantities are worth

The language of quantities as a grammar, apart from the reader, and the number
that a quantity of it writes. `parseValue_reads`: a text is read exactly when it
is in the language, and its value is the number that it writes times the factor
of its suffix, rounded once.
-/

namespace PodPolicy

open Numeral Text

namespace Quantity

-- -----------------------------------------------------------------------------
-- The language
-- -----------------------------------------------------------------------------

def AllDigits (cs : List Char) : Prop :=
  ∀ c ∈ cs, isDigit c = true

/-- Digits and possibly a point and more digits, or a point and digits: the text,
its digits before the point and those after it. -/
inductive IsMagnitude : List Char → List Char → List Char → Prop
  | whole {ds : List Char} (hne : ds ≠ []) (hds : AllDigits ds) : IsMagnitude ds ds []
  | pointed {ds es : List Char} (hne : ds ≠ []) (hds : AllDigits ds) (hes : AllDigits es) :
    IsMagnitude (ds ++ '.' :: es) ds es
  | fraction {es : List Char} (hne : es ≠ []) (hes : AllDigits es) : IsMagnitude ('.' :: es) [] es

/-- Text that goes on as `rest` after an optional sign, and whether the sign is minus. -/
inductive IsSigned (rest : List Char) : List Char → Bool → Prop
  | bare : IsSigned rest rest false
  | plus : IsSigned rest ('+' :: rest) false
  | minus : IsSigned rest ('-' :: rest) true

def IsNumber (cs : List Char) (negative : Bool) (whole fraction : List Char) : Prop :=
  ∃ magnitude lineEnd, IsSigned (magnitude ++ lineEnd) cs negative ∧
    IsMagnitude magnitude whole fraction ∧ (lineEnd = [] ∨ lineEnd = ['\n'])

/-- A text is its number and its suffix. Without a suffix it ends in none. -/
def Splits (cs number : List Char) : Option Suffix → Prop
  | some suffix => cs = number ++ suffix.chars
  | none => cs = number ∧ ∀ suffix : Suffix, ¬suffix.chars <:+ cs

variable {cs ds es magnitude whole fraction number lineEnd : List Char} {negative : Bool}
  {d : Decimal} {suffix : Option Suffix}

-- -----------------------------------------------------------------------------
-- Reading numbers
-- -----------------------------------------------------------------------------

theorem isLineEnd_iff : isLineEnd lineEnd = true ↔ lineEnd = [] ∨ lineEnd = ['\n'] := by
  unfold isLineEnd
  split <;> simp_all

theorem allDigits_takeWhile : AllDigits (cs.takeWhile isDigit) :=
  fun _ hc => List.mem_takeWhile_imp hc

theorem takeWhile_digits (hds : AllDigits ds) (h : ∀ c ∈ cs.head?, isDigit c = false) :
    (ds ++ cs).takeWhile isDigit = ds ∧ (ds ++ cs).dropWhile isDigit = cs := by
  rw [List.takeWhile_append_of_pos hds, List.dropWhile_append_of_pos hds]
  cases cs with
  | nil => simp
  | cons c rest =>
    have hc := h c rfl
    rw [List.takeWhile_cons_of_neg (by simp [hc]), List.dropWhile_cons_of_neg (by simp [hc])]
    simp

theorem lineEnd_head (h : isLineEnd lineEnd = true) : ∀ c ∈ lineEnd.head?, isDigit c = false := by
  rcases isLineEnd_iff.mp h with rfl | rfl
  · simp
  · simp only [List.head?_cons, Option.mem_def, Option.some.injEq, forall_eq']
    decide

theorem readMagnitude_pointed (hds : AllDigits ds) (hes : AllDigits es) (hne : ds ≠ [] ∨ es ≠ [])
    (hend : isLineEnd lineEnd = true) : readMagnitude negative (ds ++ '.' :: (es ++ lineEnd)) =
      some ⟨negative, digitsValue (ds ++ es), -es.length⟩ := by
  have hpoint : ∀ c ∈ ('.' :: (es ++ lineEnd)).head?, isDigit c = false := by
    simp only [List.head?_cons, Option.mem_def, Option.some.injEq, forall_eq']
    decide
  obtain ⟨htake, hdrop⟩ := takeWhile_digits hds hpoint
  obtain ⟨htake', hdrop'⟩ := takeWhile_digits hes (lineEnd_head hend)
  rw [readMagnitude, htake, hdrop]
  simp only [htake', hdrop', hend]
  rw [if_neg]
  simpa [imp_iff_not_or] using hne

theorem readMagnitude_parts (h : readMagnitude negative cs = some d) :
    ∃ magnitude whole fraction lineEnd, cs = magnitude ++ lineEnd ∧
      IsMagnitude magnitude whole fraction ∧ isLineEnd lineEnd = true ∧
      d = ⟨negative, digitsValue (whole ++ fraction), -fraction.length⟩ := by
  have hcs : cs.takeWhile isDigit ++ cs.dropWhile isDigit = cs := List.takeWhile_append_dropWhile
  unfold readMagnitude at h
  simp only at h
  split at h
  · rename_i more hmore
    rw [hmore] at hcs
    have hdigits : more.takeWhile isDigit ++ more.dropWhile isDigit = more :=
      List.takeWhile_append_dropWhile
    split at h
    · cases h
    · rename_i hread
      cases h
      simp only [Bool.or_eq_true, Bool.and_eq_true, List.isEmpty_iff, Bool.not_eq_true', not_or,
        not_and, Bool.not_eq_false] at hread
      refine ⟨cs.takeWhile isDigit ++ '.' :: more.takeWhile isDigit, _, _,
        more.dropWhile isDigit, ?_, ?_, hread.2, rfl⟩
      · rw [List.append_assoc, List.cons_append, hdigits, hcs]
      · by_cases hwhole : cs.takeWhile isDigit = []
        · rw [hwhole]
          exact .fraction (hread.1 hwhole) allDigits_takeWhile
        · exact .pointed hwhole allDigits_takeWhile allDigits_takeWhile
  · split at h
    · cases h
    · rename_i hread
      cases h
      simp only [Bool.or_eq_true, List.isEmpty_iff, Bool.not_eq_true', not_or,
        Bool.not_eq_false] at hread
      refine ⟨_, _, [], _, hcs.symm, .whole hread.1 allDigits_takeWhile, hread.2, ?_⟩
      simp

theorem IsMagnitude.read (h : IsMagnitude magnitude whole fraction)
    (hend : isLineEnd lineEnd = true) : readMagnitude negative (magnitude ++ lineEnd) =
      some ⟨negative, digitsValue (whole ++ fraction), -fraction.length⟩ := by
  cases h with
  | whole hne hds =>
    obtain ⟨htake, hdrop⟩ := takeWhile_digits hds (lineEnd_head hend)
    rw [readMagnitude, htake, hdrop]
    rcases isLineEnd_iff.mp hend with rfl | rfl <;> simp [hne, isLineEnd]
  | pointed hne hds hes =>
    rw [List.append_assoc, List.cons_append]
    exact readMagnitude_pointed hds hes (.inl hne) hend
  | fraction hne hes =>
    have hnone : AllDigits [] := by simp [AllDigits]
    exact readMagnitude_pointed hnone hes (.inr hne) hend

theorem IsMagnitude.head (h : IsMagnitude magnitude whole fraction) :
    ∀ c ∈ (magnitude ++ lineEnd).head?, c ≠ '+' ∧ c ≠ '-' := by
  have hdigit (c : Char) (hc : isDigit c = true) : c ≠ '+' ∧ c ≠ '-' := by
    constructor <;> rintro rfl <;> revert hc <;> decide
  have hfirst (ds cs : List Char) (hne : ds ≠ []) (hds : AllDigits ds) :
      ∀ c ∈ (ds ++ cs).head?, c ≠ '+' ∧ c ≠ '-' := by
    obtain ⟨first, rest, rfl⟩ := List.exists_cons_of_ne_nil hne
    rintro _ ⟨⟩
    exact hdigit first (hds first List.mem_cons_self)
  cases h with
  | whole hne hds => exact hfirst _ _ hne hds
  | pointed hne hds hes =>
    rw [List.append_assoc]
    exact hfirst _ _ hne hds
  | fraction hne hes =>
    rintro _ ⟨⟩
    decide

theorem readNumber_bare (h : ∀ c ∈ cs.head?, c ≠ '+' ∧ c ≠ '-') :
    readNumber cs = readMagnitude false cs := by
  unfold readNumber
  split
  · exact absurd rfl (h '-' rfl).2
  · exact absurd rfl (h '+' rfl).1
  · rfl

theorem readNumber_some : readNumber cs = some d ↔ ∃ negative whole fraction,
    IsNumber cs negative whole fraction ∧
      d = ⟨negative, digitsValue (whole ++ fraction), -fraction.length⟩ := by
  constructor
  · intro h
    unfold readNumber at h
    split at h
    all_goals
      obtain ⟨magnitude, whole, fraction, lineEnd, rfl, hmagnitude, hend, rfl⟩ :=
        readMagnitude_parts h
      refine ⟨_, whole, fraction, ⟨magnitude, lineEnd, ?_, hmagnitude, isLineEnd_iff.mp hend⟩, rfl⟩
    · exact .minus
    · exact .plus
    · exact .bare
  · rintro ⟨negative, whole, fraction, ⟨magnitude, lineEnd, hsigned, hmagnitude, hend⟩, rfl⟩
    have hend := isLineEnd_iff.mpr hend
    cases hsigned with
    | bare => rw [readNumber_bare hmagnitude.head, hmagnitude.read hend]
    | plus => exact hmagnitude.read hend
    | minus => exact hmagnitude.read hend

-- -----------------------------------------------------------------------------
-- Suffixes
-- -----------------------------------------------------------------------------

theorem Suffix.eq_of_isSuffix {s t : Suffix} (hs : s.chars <:+ cs) (ht : t.chars <:+ cs) :
    s = t := by
  have hlonger {s t : Suffix} (h : s.chars <:+ t.chars) : s = t := by
    revert h
    cases s <;> cases t <;> decide
  rcases le_total s.chars.length t.chars.length with hle | hle
  · exact hlonger (List.suffix_of_suffix_length_le hs ht hle)
  · exact (hlonger (List.suffix_of_suffix_length_le ht hs hle)).symm

theorem Suffix.mem_all (s : Suffix) : s ∈ Suffix.all := by
  cases s <;> decide

theorem splitSuffix_iff : splitSuffix cs = (number, suffix) ↔ Splits cs number suffix := by
  unfold splitSuffix
  cases hfind : Suffix.all.find? fun s => s.chars.isSuffixOf cs with
  | none =>
    have hnone (s : Suffix) : ¬s.chars <:+ cs := by
      simpa using List.find?_eq_none.mp hfind s s.mem_all
    cases suffix with
    | none => simp [Splits, hnone]
    | some s =>
      refine iff_of_false (by simp) fun h => hnone s ?_
      exact ⟨number, Eq.symm h⟩
  | some s =>
    have hs : s.chars <:+ cs := by simpa using List.find?_some hfind
    obtain ⟨before, rfl⟩ := hs
    have htake : (before ++ s.chars).take ((before ++ s.chars).length - s.chars.length) =
        before := by
      simp
    simp only [htake, Prod.mk.injEq]
    cases suffix with
    | none => exact iff_of_false (by simp) fun h => h.2 s (List.suffix_append before s.chars)
    | some t =>
      constructor
      · rintro ⟨rfl, ⟨⟩⟩
        rfl
      · intro h
        have hst : s = t :=
          Suffix.eq_of_isSuffix (List.suffix_append before s.chars) ⟨number, Eq.symm h⟩
        subst hst
        exact ⟨List.append_cancel_right h, rfl⟩

-- -----------------------------------------------------------------------------
-- Values
-- -----------------------------------------------------------------------------

def amount (negative : Bool) (whole fraction : List Char) : Rat :=
  (if negative then -1 else 1) * (digitsValue whole + digitsValue fraction / 10 ^ fraction.length)

def factor : Option Suffix → Rat
  | some .gibi => 2 ^ 30
  | some .mebi => 2 ^ 20
  | some .kibi => 2 ^ 10
  | some .milli => 1 / 1000
  | none => 1

/-- The natural number that a multiplier has in front of its places. -/
def scale : Option Suffix → Nat
  | some .gibi => 2 ^ 30
  | some .mebi => 2 ^ 20
  | some .kibi => 2 ^ 10
  | some .milli => 1
  | none => 1

def places : Option Suffix → Nat
  | some .milli => 3
  | _ => 0

theorem digitsValue_append (cs ds : List Char) :
    digitsValue (cs ++ ds) = digitsValue cs * 10 ^ ds.length + digitsValue ds := by
  induction ds using List.reverseRecOn with
  | nil => simp [digitsValue]
  | append_singleton ds c ih =>
    simp only [digitsValue, List.foldl_append, List.foldl_cons, List.foldl_nil] at ih ⊢
    rw [ih, List.length_append, List.length_singleton, pow_succ]
    ring

theorem toRat_times (a b : Decimal) : (a.times b).toRat = a.toRat * b.toRat := by
  obtain ⟨aNegative, aCoefficient, aExponent⟩ := a
  obtain ⟨bNegative, bCoefficient, bExponent⟩ := b
  simp only [Decimal.toRat, Decimal.times]
  rw [zpow_add₀ (by norm_num)]
  cases aNegative <;> cases bNegative <;> push_cast <;> simp <;> ring

theorem toRat_number :
    (⟨negative, digitsValue (whole ++ fraction), -fraction.length⟩ : Decimal).toRat =
      amount negative whole fraction := by
  have hpow : (10 : Rat) ^ fraction.length ≠ 0 := by positivity
  rw [Decimal.toRat, amount, digitsValue_append, zpow_neg, zpow_natCast]
  push_cast
  field_simp

theorem toRat_multiplierOf : (multiplierOf suffix).toRat = factor suffix := by
  cases suffix with
  | none => norm_num [multiplierOf, Decimal.toRat, Decimal.ofNat, factor]
  | some s =>
    cases s <;> norm_num [multiplierOf, Suffix.multiplier, Decimal.toRat, Decimal.ofNat, factor]

theorem times_multiplierOf {n : Nat} {e : Int} :
    (⟨negative, n, e⟩ : Decimal).times (multiplierOf suffix) =
      ⟨negative, n * scale suffix, e - places suffix⟩ := by
  cases suffix with
  | none => simp [multiplierOf, Decimal.times, Decimal.ofNat, scale, places]
  | some s =>
    cases s <;> simp [multiplierOf, Suffix.multiplier, Decimal.times, Decimal.ofNat, scale, places]
    rfl

/-- What a quantity of these parts is worth: its number times the factor of its
suffix, rounded once to 28 digits, the sign kept. -/
structure IsWorth (negative : Bool) (whole fraction : List Char) (suffix : Option Suffix)
    (value : Decimal) : Prop where
  nearest : value.IsNearest 28 (amount negative whole fraction * factor suffix)
  sign : value.negative = negative
  short : digitCount (digitsValue (whole ++ fraction) * scale suffix) ≤ 28 →
    value.toRat = amount negative whole fraction * factor suffix ∧
      value.exponent = -fraction.length - places suffix
  long : 28 < digitCount (digitsValue (whole ++ fraction) * scale suffix) →
    digitCount value.coefficient = 28

def reading (negative : Bool) (whole fraction : List Char) (suffix : Option Suffix) : Reading :=
  ⟨⟨negative, digitsValue (whole ++ fraction), -fraction.length⟩, multiplierOf suffix⟩

theorem exact_reading : (reading negative whole fraction suffix).exact =
    ⟨negative, digitsValue (whole ++ fraction) * scale suffix, -fraction.length - places suffix⟩ :=
  times_multiplierOf

theorem toRat_reading : (reading negative whole fraction suffix).exact.toRat =
    amount negative whole fraction * factor suffix := by
  rw [Reading.exact, reading, toRat_times, toRat_number, toRat_multiplierOf]

theorem reading_isWorth :
    IsWorth negative whole fraction suffix (reading negative whole fraction suffix).value := by
  refine ⟨?nearest, ?sign, fun hshort => ?short, fun hlong => ?long⟩
  case nearest => exact toRat_reading ▸ Decimal.round_isNearest (by decide)
  case sign => rw [Reading.value, Decimal.round_negative, exact_reading]
  case short =>
    have hvalue : (reading negative whole fraction suffix).value =
        (reading negative whole fraction suffix).exact := by
      refine Decimal.round_short ?_
      rw [exact_reading]
      exact hshort
    rw [hvalue, toRat_reading, exact_reading]
    exact ⟨rfl, rfl⟩
  case long =>
    have hcount : 28 < digitCount (reading negative whole fraction suffix).exact.coefficient := by
      rw [exact_reading]
      exact hlong
    exact (Decimal.round_keeps (by decide) hcount).count

-- -----------------------------------------------------------------------------
-- Parsing
-- -----------------------------------------------------------------------------

def IsQuantity (q : String) (negative : Bool) (whole fraction : List Char)
    (suffix : Option Suffix) : Prop :=
  ∃ number, Splits q.toList number suffix ∧ IsNumber number negative whole fraction

variable {q : String}

theorem read?_some {r : Reading} : read? q = some r ↔ ∃ negative whole fraction suffix,
    IsQuantity q negative whole fraction suffix ∧ r = reading negative whole fraction suffix := by
  simp only [read?, Option.map_eq_some_iff, readNumber_some]
  constructor
  · rintro ⟨_, ⟨negative, whole, fraction, hnumber, rfl⟩, rfl⟩
    exact ⟨negative, whole, fraction, _, ⟨_, splitSuffix_iff.mp rfl, hnumber⟩, rfl⟩
  · rintro ⟨negative, whole, fraction, suffix, ⟨number, hsplits, hnumber⟩, rfl⟩
    rw [splitSuffix_iff.mpr hsplits]
    exact ⟨_, ⟨negative, whole, fraction, hnumber, rfl⟩, rfl⟩

theorem parse_of_isQuantity (h : IsQuantity q negative whole fraction suffix) :
    parse q = .ok (reading negative whole fraction suffix).value := by
  rw [parse, read?_some.mpr ⟨negative, whole, fraction, suffix, h, rfl⟩]

theorem parse_of_not_isQuantity (h : ∀ negative whole fraction suffix,
    ¬IsQuantity q negative whole fraction suffix) : parse q = .error ⟨.text q, .notDecimal⟩ := by
  have hnone : read? q = none := by
    refine Option.eq_none_iff_forall_ne_some.mpr fun r hr => ?_
    obtain ⟨negative, whole, fraction, suffix, hq, -⟩ := read?_some.mp hr
    exact h negative whole fraction suffix hq
  rw [parse, hnone]

-- -----------------------------------------------------------------------------
-- Numbers as quantities
-- -----------------------------------------------------------------------------

def textOf? : Value → Option String
  | .text s => some s
  | .int n => some (toString n)
  | .double d => some d.toText
  | _ => none

theorem toList_toString (n : Int) :
    (toString n).toList = (if n < 0 then ['-'] else []) ++ Nat.toDigits 10 n.natAbs := by
  cases n with
  | ofNat m =>
    have htext : toString (Int.ofNat m) = Nat.repr m := rfl
    have hsign : ¬Int.ofNat m < 0 := Int.not_lt.mpr (Int.natCast_nonneg m)
    rw [htext, Nat.toList_repr, if_neg hsign]
    rfl
  | negSucc m =>
    have htext : toString (Int.negSucc m) = "-" ++ Nat.repr (m + 1) := rfl
    rw [htext, String.toList_append, Nat.toList_repr, if_pos (Int.negSucc_lt_zero m)]
    rfl

theorem digitValue?_ascii {c : Char} (h : c.isDigit = true) :
    digitValue? c = some (c.toNat - '0'.toNat) := by
  have hrange : 0x30 ≤ c.toNat ∧ c.toNat < 0x30 + 10 := by
    simp only [Char.isDigit, Bool.and_eq_true, decide_eq_true_eq] at h
    exact ⟨UInt32.le_iff_toNat_le.mp h.1, Nat.lt_succ_of_le (UInt32.le_iff_toNat_le.mp h.2)⟩
  rw [digitValue?, digitZeros, List.find?_cons_of_pos (by simpa using hrange)]
  rfl

theorem foldl_digitValue? {m : Nat} (h : ∀ c ∈ cs, c.isDigit = true) :
    cs.foldl (fun n c => 10 * n + (digitValue? c).getD 0) m = Nat.ofDigitChars 10 cs m := by
  induction cs generalizing m with
  | nil => rfl
  | cons c rest ih =>
    rw [List.forall_mem_cons] at h
    rw [List.foldl_cons, Nat.ofDigitChars_cons, digitValue?_ascii h.1, ih h.2]
    rfl

theorem isDigit_toDigits {n : Nat} : ∀ c ∈ Nat.toDigits 10 n, c.isDigit = true :=
  fun _ hc => Nat.isDigit_of_mem_toDigits (by decide) (by decide) hc

theorem digitsValue_toDigits (n : Nat) : digitsValue (Nat.toDigits 10 n) = n :=
  (foldl_digitValue? isDigit_toDigits).trans (Nat.ofDigitChars_toDigits (by decide) (by decide))

theorem Suffix.has_letter (s : Suffix) : ∃ c ∈ s.chars, c ≠ '-' ∧ c ≠ '.' ∧ c.isDigit = false := by
  cases s <;> simp [Suffix.chars]

theorem splits_none (h : ∀ c ∈ cs, c = '-' ∨ c = '.' ∨ c.isDigit = true) : Splits cs cs none := by
  refine ⟨rfl, fun suffix hsuffix => ?_⟩
  obtain ⟨c, hc, hsign, hpoint, hdigit⟩ := suffix.has_letter
  rcases h c (hsuffix.subset hc) with rfl | rfl | hother
  · exact hsign rfl
  · exact hpoint rfl
  · rw [hdigit] at hother
    cases hother

theorem isQuantity_toString (n : Int) :
    IsQuantity (toString n) (decide (n < 0)) (Nat.toDigits 10 n.natAbs) [] none := by
  refine ⟨(toString n).toList, splits_none ?unsuffixed, Nat.toDigits 10 n.natAbs, [],
    ?signed, .whole ?nonempty ?digits, .inl rfl⟩
  case unsuffixed =>
    intro c hc
    rw [toList_toString, List.mem_append] at hc
    rcases hc with hsign | hdigit
    · split at hsign
      · exact .inl (List.mem_singleton.mp hsign)
      · cases hsign
    · exact .inr (.inr (isDigit_toDigits c hdigit))
  case signed =>
    rw [toList_toString, List.append_nil]
    by_cases hn : n < 0
    · rw [if_pos hn, decide_eq_true hn]
      exact .minus
    · rw [if_neg hn, decide_eq_false hn]
      exact .bare
  case nonempty => exact Nat.toDigits_ne_nil
  case digits =>
    exact fun c hc => isDigit_of_digitValue? (digitValue?_ascii (isDigit_toDigits c hc))

theorem amount_toDigits (n : Int) : amount (decide (n < 0)) (Nat.toDigits 10 n.natAbs) [] = n := by
  have hfraction : digitsValue [] = 0 := rfl
  rw [amount, digitsValue_toDigits, hfraction, Nat.cast_zero, zero_div, add_zero]
  by_cases hn : n < 0
  · have habs : ((n.natAbs : Int) : Rat) = ((-n : Int) : Rat) := by
      rw [Int.ofNat_natAbs_of_nonpos hn.le]
    rw [decide_eq_true hn, if_pos rfl, ← Int.cast_natCast, habs, Int.cast_neg]
    ring
  · rw [decide_eq_false hn, if_neg (by decide), one_mul, ← Int.cast_natCast,
      Int.natAbs_of_nonneg (not_lt.mp hn)]

/-- A quantity is read exactly when its text is in the language, and is then
worth what the text writes. An integer always is, a value that is no text and no
number never. -/
theorem parseValue_reads (v : Value) :
    (∀ q, textOf? v = some q →
      ((∃ value, parseValue v = .ok value) ↔
        ∃ negative whole fraction suffix, IsQuantity q negative whole fraction suffix) ∧
      ((∀ negative whole fraction suffix, ¬IsQuantity q negative whole fraction suffix) →
        parseValue v = .error ⟨.text q, .notDecimal⟩) ∧
      ∀ negative whole fraction suffix, IsQuantity q negative whole fraction suffix →
        ∃ value, parseValue v = .ok value ∧ IsWorth negative whole fraction suffix value) ∧
    (∀ n : Int, v = .int n → ∃ value, parseValue v = .ok value ∧ value.IsNearest 28 n) ∧
    (textOf? v = none → parseValue v = .error ⟨v, .notText⟩) := by
  have hparse (q : String) (h : textOf? v = some q) : parseValue v = parse q := by
    cases v <;> cases h <;> rfl
  refine ⟨fun q hq => ?_, fun n hn => ?_, fun h => ?_⟩
  · rw [hparse q hq]
    refine ⟨⟨?_, ?_⟩, parse_of_not_isQuantity, ?_⟩
    · rintro ⟨value, hvalue⟩
      by_contra hnone
      rw [parse_of_not_isQuantity] at hvalue
      · cases hvalue
      · exact fun negative whole fraction suffix h => hnone ⟨negative, whole, fraction, suffix, h⟩
    · rintro ⟨negative, whole, fraction, suffix, h⟩
      exact ⟨_, parse_of_isQuantity h⟩
    · exact fun negative whole fraction suffix h => ⟨_, parse_of_isQuantity h, reading_isWorth⟩
  · subst hn
    refine ⟨_, parse_of_isQuantity (isQuantity_toString n), ?_⟩
    have h : IsWorth (decide (n < 0)) (Nat.toDigits 10 n.natAbs) [] none _ := reading_isWorth
    have hnearest := h.nearest
    rwa [amount_toDigits, factor, mul_one] at hnearest
  · cases v <;> first | rfl | cases h

def nines : List Char :=
  List.replicate 28 '9'

def carryQuantity : String :=
  "+9999999999999999999999999999.5"

theorem carryQuantity_isQuantity : IsQuantity carryQuantity false nines ['5'] none := by
  refine ⟨carryQuantity.toList, ⟨rfl, ?_⟩, nines ++ ['.', '5'], [], .plus, .pointed ?_ ?_ ?_,
    .inl rfl⟩
  · intro suffix
    cases suffix <;> decide
  · decide
  · exact List.all_eq_true.mp (by decide)
  · exact List.all_eq_true.mp (by decide)

/-- The half goes to the even neighbour, with a carry. -/
theorem parseValue_carryQuantity :
    IsQuantity carryQuantity false nines ['5'] none ∧
    (∃ value, parseValue (.text carryQuantity) = .ok value ∧
      IsWorth false nines ['5'] none value ∧ value = ⟨false, 10 ^ 27, 1⟩) ∧
    (∀ negative whole fraction suffix, ¬IsQuantity "1e3" negative whole fraction suffix) ∧
    parseValue (.text "1e3") = .error ⟨.text "1e3", .notDecimal⟩ ∧
    (∃ value, parseValue (.int (-5)) = .ok value ∧ value.IsNearest 28 (-5 : Int)) ∧
    parseValue (.bool true) = .error ⟨.bool true, .notText⟩ := by
  have hrefused : ∀ negative whole fraction suffix,
      ¬IsQuantity "1e3" negative whole fraction suffix := by
    intro negative whole fraction suffix h
    obtain ⟨value, hvalue⟩ := ((parseValue_reads (.text "1e3")).1 "1e3" rfl).1.mpr ⟨_, _, _, _, h⟩
    cases hvalue
  refine ⟨carryQuantity_isQuantity, ?_, hrefused, ?_, ?_, ?_⟩
  · obtain ⟨-, -, hreads⟩ := (parseValue_reads (.text carryQuantity)).1 carryQuantity rfl
    obtain ⟨value, hvalue, hworth⟩ := hreads _ _ _ _ carryQuantity_isQuantity
    refine ⟨value, hvalue, hworth, ?_⟩
    cases hvalue
    rfl
  · exact ((parseValue_reads (.text "1e3")).1 "1e3" rfl).2.1 hrefused
  · exact (parseValue_reads (.int (-5))).2.1 (-5) rfl
  · exact (parseValue_reads (.bool true)).2.2 rfl

end Quantity

end PodPolicy
