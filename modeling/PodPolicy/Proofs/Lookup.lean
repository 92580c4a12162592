import PodPolicy.Value

/-!
# Looking names up

What is found under a name: in a mapping that is written out, in one that has
been added to, and at the end of a path through mappings. What holds of all
entries of a mapping holds of those that are added to it.
-/

namespace PodPolicy

variable {name other : String} {key v w : Value} {entries rest : Entries}

namespace Value

def at? : List String → Value → Option Value
  | [], v => some v
  | name :: path, .mapping entries => (Entries.get? entries name).bind (at? path)
  | _ :: _, _ => none

theorem isText_iff : v.isText name = true ↔ v = .text name := by
  cases v <;> simp [isText]

theorem sameKey_text : v.sameKey (.text name) = v.isText name := by
  cases v <;> rfl

theorem at?_nil : v.at? [] = some v := by
  cases v <;> rfl

theorem at?_cons {path : List String} : v.at? (name :: path) = some w ↔
    ∃ entries, v = .mapping entries ∧ ∃ inner, Entries.get? entries name = some inner ∧
      inner.at? path = some w := by
  cases v <;> simp [at?, Option.bind_eq_some_iff]

theorem at?_append {path more : List String} :
    v.at? (path ++ more) = (v.at? path).bind (at? more) := by
  induction path generalizing v with
  | nil => simp [at?_nil]
  | cons name path ih =>
    cases v with
    | mapping entries =>
      have hrest : at? (path ++ more) = fun w => (at? path w).bind (at? more) := funext fun _ => ih
      simp only [List.cons_append, at?, Option.bind_assoc, hrest]
    | _ => rfl

end Value

namespace Entries

@[simp]
theorem get?_cons : Entries.get? ((.text other, v) :: rest) name =
    if other = name then some v else Entries.get? rest name := by
  by_cases h : other = name <;> simp [get?, Value.isText, h]

/-- Of the entries that are kept by their keys, a name finds what it found. -/
theorem get?_filter (keep : Value → Bool) :
    Entries.get? (entries.filter fun entry => keep entry.1) name =
      if keep (.text name) then entries.get? name else none := by
  have hkeep : (fun entry : Value × Value => keep entry.1 && entry.1.isText name) =
      fun entry => keep (.text name) && entry.1.isText name := by
    funext entry
    cases h : entry.1.isText name with
    | true => rw [Value.isText_iff.mp h]
    | false => simp only [Bool.and_false]
  simp only [get?, List.find?_filter, Bool.decide_and, Bool.decide_eq_true, hkeep]
  cases keep (.text name) <;> simp

theorem get?_put_same : (entries.put (.text name) v).get? name = some v := by
  induction entries with
  | nil => simp [put, Keyed.put]
  | cons entry rest ih =>
    obtain ⟨key, w⟩ := entry
    cases h : key.isText name with
    | true => simp [put, Keyed.put, Value.sameKey_text, get?, h]
    | false =>
      simp only [put, get?] at ih
      simp [put, Keyed.put, Value.sameKey_text, get?, h, ih]

theorem get?_of_get (h : entries.get name = v) (hv : v ≠ .null) : entries.get? name = some v := by
  unfold get at h
  cases hfound : entries.get? name with
  | none => exact absurd (by rw [← h, hfound]; rfl) hv
  | some w =>
    rw [hfound] at h
    exact congrArg some h

theorem at?_get {path : List String} (h : entries.get name = v) (hv : v ≠ .null) :
    (Value.mapping entries).at? (name :: path) = v.at? path := by
  rw [Value.at?, get?_of_get h hv, Option.bind_some]

theorem put_self (h : entries.get? name = some v) : entries.put (.text name) v = entries := by
  induction entries with
  | nil => cases h
  | cons entry rest ih =>
    obtain ⟨key, w⟩ := entry
    cases hkey : key.isText name with
    | true =>
      simp only [get?, List.find?_cons, hkey, Option.map_some, Option.some.injEq] at h
      simp [put, Keyed.put, Value.sameKey_text, hkey, h]
    | false =>
      simp only [get?, List.find?_cons, hkey] at h
      simpa [put, Keyed.put, Value.sameKey_text, hkey] using ih h

theorem get?_put_other (hne : other ≠ name) :
    (entries.put (.text name) v).get? other = entries.get? other := by
  induction entries with
  | nil => simp [put, Keyed.put, hne.symm]
  | cons entry rest ih =>
    obtain ⟨key, w⟩ := entry
    cases h : key.isText name with
    | true =>
      have hkey : key.isText other = false := by
        rw [Value.isText_iff.mp h]
        simpa [Value.isText] using hne.symm
      simp [put, Keyed.put, Value.sameKey_text, get?, h, hkey]
    | false =>
      simp only [put, get?] at ih
      cases hkey : key.isText other <;>
        simp [put, Keyed.put, Value.sameKey_text, get?, h, hkey, ih]

theorem get_put_same : (entries.put (.text name) v).get name = v :=
  get_of_get? get?_put_same

theorem get_put_other (hne : other ≠ name) :
    (entries.put (.text name) v).get other = entries.get other := by
  simp only [get, get?_put_other hne]

def TextKeyed (entries : Entries) : Prop :=
  ∀ entry ∈ entries, ∃ name, entry.1 = .text name

section
variable {P Q : Value → Prop} {pairs : List (Value × Value)}

theorem put_all (h : ∀ entry ∈ entries, P entry.1 ∧ Q entry.2) (hkey : P key) (hv : Q v) :
    ∀ entry ∈ entries.put key v, P entry.1 ∧ Q entry.2 := by
  unfold put
  induction entries with
  | nil => simp [Keyed.put, hkey, hv]
  | cons entry rest ih =>
    obtain ⟨k, w⟩ := entry
    rw [List.forall_mem_cons] at h
    unfold Keyed.put
    split
    · exact List.forall_mem_cons.mpr ⟨⟨h.1.1, hv⟩, h.2⟩
    · exact List.forall_mem_cons.mpr ⟨h.1, ih h.2⟩

theorem ofList_all (h : ∀ pair ∈ pairs, P pair.1 ∧ Q pair.2) :
    ∀ entry ∈ Entries.ofList pairs, P entry.1 ∧ Q entry.2 := by
  have hfold : ∀ made : Entries, (∀ entry ∈ made, P entry.1 ∧ Q entry.2) →
      ∀ entry ∈ pairs.foldl (fun made (key, a) => Keyed.put made key a) made,
        P entry.1 ∧ Q entry.2 := by
    induction pairs with
    | nil => exact fun _ hmade => hmade
    | cons pair rest ih =>
      intro made hmade
      rw [List.forall_mem_cons] at h
      exact ih h.2 _ (put_all hmade h.1.1 h.1.2)
  exact hfold [] (by simp)

end

end Entries

end PodPolicy
