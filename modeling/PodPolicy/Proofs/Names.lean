import PodPolicy.Manifest.Schema
import PodPolicy.Proofs.Lookup

/-!
# Names for keys

Mappings that are written out with names for keys, and lists of entries in which a
later one replaces an earlier one of the same name. `Entries.ofList_ofNames`: the
two ways to leave one entry for each name come to the same.
-/

namespace PodPolicy

section
variable {α : Type} {name : String} {a : α}

theorem putNamed_mem {made : List (String × α)} {name : String} {entry : String × α}
    (h : entry ∈ putNamed made name a) : entry ∈ made ∨ entry = (name, a) := by
  induction made with
  | nil => simpa [putNamed] using h
  | cons first rest ih =>
    unfold putNamed at h
    split at h
    · rename_i hname
      rcases List.mem_cons.mp h with rfl | h
      · exact .inr (by rw [hname])
      · exact .inl (List.mem_cons_of_mem _ h)
    · rcases List.mem_cons.mp h with rfl | h
      · exact .inl List.mem_cons_self
      · exact (ih h).imp_left (List.mem_cons_of_mem _)

theorem named_mem {entries : List (String × α)} {entry : String × α} (h : entry ∈ named entries) :
    entry ∈ entries := by
  have hfold : ∀ made : List (String × α),
      entry ∈ entries.foldl (fun made given => putNamed made given.1 given.2) made →
        entry ∈ made ∨ entry ∈ entries := by
    clear h
    induction entries with
    | nil => exact fun _ h => .inl h
    | cons first rest ih =>
      intro made h
      rcases ih _ h with h | h
      · exact (putNamed_mem h).imp_right (by rintro rfl; exact List.mem_cons_self)
      · exact .inr (List.mem_cons_of_mem _ h)
  exact (hfold [] h).resolve_left List.not_mem_nil

theorem putNamed_of_not_mem {made : List (String × α)} {a : α}
    (h : name ∉ made.map Prod.fst) : putNamed made name a = made ++ [(name, a)] := by
  induction made with
  | nil => rfl
  | cons first rest ih =>
    simp only [List.map_cons, List.mem_cons, not_or] at h
    rw [putNamed, if_neg (Ne.symm h.1), ih h.2, List.cons_append]

theorem putNamed_nodup {made : List (String × α)} {a : α} (h : (made.map Prod.fst).Nodup) :
    ((putNamed made name a).map Prod.fst).Nodup := by
  induction made with
  | nil => simp [putNamed]
  | cons first rest ih =>
    rw [List.map_cons, List.nodup_cons] at h
    unfold putNamed
    split
    · exact List.nodup_cons.mpr h
    · rename_i hne
      refine List.nodup_cons.mpr ⟨fun hmem => ?_, ih h.2⟩
      obtain ⟨entry, hentry, heq⟩ := List.mem_map.mp hmem
      rcases putNamed_mem hentry with hentry | rfl
      · exact h.1 (heq ▸ List.mem_map_of_mem hentry)
      · exact hne heq.symm

theorem named_nodup {entries : List (String × α)} : ((named entries).map Prod.fst).Nodup := by
  have hfold : ∀ made : List (String × α), (made.map Prod.fst).Nodup →
      ((entries.foldl (fun made given => putNamed made given.1 given.2) made).map
        Prod.fst).Nodup := by
    induction entries with
    | nil => exact fun _ h => h
    | cons first rest ih => exact fun made h => ih _ (putNamed_nodup h)
  exact hfold [] List.nodup_nil

/-- Entries of which no two have one name stay as they are. -/
theorem named_of_nodup {entries : List (String × α)} (h : (entries.map Prod.fst).Nodup) :
    named entries = entries := by
  have hfold : ∀ made : List (String × α), ((made ++ entries).map Prod.fst).Nodup →
      entries.foldl (fun made given => putNamed made given.1 given.2) made = made ++ entries := by
    clear h
    induction entries with
    | nil => exact fun made _ => (List.append_nil made).symm
    | cons first rest ih =>
      intro made h
      have hnew : first.1 ∉ made.map Prod.fst := by
        rw [List.map_append, List.map_cons] at h
        exact fun hmem => (List.nodup_append.mp h).2.2 _ hmem _ List.mem_cons_self rfl
      rw [List.foldl_cons, putNamed_of_not_mem hnew, ih _ (by simpa using h),
        List.append_assoc, List.singleton_append]
  exact hfold [] h

end

section
variable {fields : List (String × Value)} {entries : Entries} {name : String} {v : Value}

def Entries.ofNames (fields : List (String × Value)) : Entries :=
  fields.map fun (name, value) => (.text name, value)

theorem Entries.get?_ofNames : (ofNames fields).get? name = fields.lookup name := by
  induction fields with
  | nil => rfl
  | cons field rest ih =>
    obtain ⟨other, v⟩ := field
    simp only [ofNames] at ih
    by_cases h : name = other
    · simp [ofNames, h]
    · have hbeq : (name == other) = false := beq_eq_false_iff_ne.mpr h
      simp [ofNames, Ne.symm h, ih, hbeq, List.lookup_cons]

theorem Entries.get?_of_mem (h : (.text name, v) ∈ entries) : entries.get? name ≠ none := by
  intro hnone
  simp only [get?, Option.map_eq_none_iff, List.find?_eq_none] at hnone
  exact hnone _ h (Value.isText_iff.mpr rfl)

namespace Entries

theorem put_ofNames : (ofNames fields).put (.text name) v = ofNames (putNamed fields name v) := by
  induction fields with
  | nil => rfl
  | cons field rest ih =>
    obtain ⟨other, w⟩ := field
    simp only [ofNames, put] at ih
    by_cases h : other = name
    · simp [ofNames, put, Keyed.put, putNamed, Value.sameKey_text, Value.isText, h]
    · simp [ofNames, put, Keyed.put, putNamed, Value.sameKey_text, Value.isText, h, ih]

theorem ofList_ofNames : ofList (ofNames fields) = ofNames (named fields) := by
  have hfold : ∀ made : List (String × Value),
      (ofNames fields).foldl (fun made (key, v) => Keyed.put made key v) (ofNames made) =
        ofNames (fields.foldl (fun made (name, v) => putNamed made name v) made) := by
    induction fields with
    | nil => exact fun _ => rfl
    | cons field rest ih =>
      intro made
      rw [List.foldl_cons, ← ih, ← put_ofNames]
      rfl
  exact hfold []

end Entries

end

end PodPolicy
