import PodPolicy.Proofs.NumberLength
import PodPolicy.Proofs.Lookup

/-!
# Values whose numbers can be told

Every integer of a value is short enough to be told, at any depth: what that says
of collections, of their parts and of what is added to them.
-/

namespace PodPolicy

variable {name : String} {key v : Value} {items : List Value} {entries : Entries}

-- -----------------------------------------------------------------------------
-- Collections
-- -----------------------------------------------------------------------------

def Entries.Tellable (entries : Entries) : Prop :=
  ∀ entry ∈ entries, entry.1.isTellable = true ∧ entry.2.isTellable = true

namespace Value

theorem areTellable_iff : areTellable items = true ↔ ∀ item ∈ items, item.isTellable = true := by
  induction items with
  | nil => simp [areTellable]
  | cons item rest ih => simp [areTellable, ih]

theorem entriesAreTellable_iff : entriesAreTellable entries = true ↔ entries.Tellable := by
  induction entries with
  | nil => simp [entriesAreTellable, Entries.Tellable]
  | cons entry rest ih =>
    obtain ⟨key, v⟩ := entry
    simp only [Entries.Tellable] at ih
    simp only [entriesAreTellable, Entries.Tellable, Bool.and_eq_true, ih, List.forall_mem_cons]

theorem isTellable_mapping : (Value.mapping entries).isTellable = true ↔ entries.Tellable := by
  rw [isTellable, entriesAreTellable_iff]

theorem isTellable_list : (Value.list items).isTellable = true ↔
    ∀ item ∈ items, item.isTellable = true := by
  rw [isTellable, areTellable_iff]

end Value

namespace Entries

theorem Tellable.nil : Entries.Tellable [] := by
  simp [Entries.Tellable]

theorem Tellable.get? (h : entries.Tellable) (hv : entries.get? name = some v) :
    v.isTellable = true := by
  unfold Entries.get? at hv
  obtain ⟨entry, hentry, rfl⟩ := Option.map_eq_some_iff.mp hv
  exact (h entry (List.mem_of_find?_eq_some hentry)).2

theorem Tellable.get (h : entries.Tellable) : (entries.get name).isTellable = true := by
  unfold Entries.get
  cases hv : entries.get? name with
  | none => rfl
  | some v => exact h.get? hv

theorem Tellable.put (h : entries.Tellable) (hkey : key.isTellable = true)
    (hv : v.isTellable = true) : (entries.put key v).Tellable :=
  put_all (P := (·.isTellable = true)) (Q := (·.isTellable = true)) h hkey hv

theorem Tellable.ofList {pairs : List (Value × Value)} (h : Entries.Tellable pairs) :
    (Entries.ofList pairs).Tellable :=
  ofList_all (P := (·.isTellable = true)) (Q := (·.isTellable = true)) h

end Entries

end PodPolicy
