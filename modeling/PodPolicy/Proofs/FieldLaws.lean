import PodPolicy.Manifest.Document
import PodPolicy.Proofs.ExceptLaws
import PodPolicy.Proofs.Names

/-!
# What a declared field reads

A field with one spelling is read from what stands under its key, absent and
null alike where the field may be left out. Each law gives the field's value
without the slot that tells the two apart.
-/

namespace PodPolicy

section
variable {α : Type} {a : α}

theorem Checked.within_ok {step : Step} {c : Checked α} : c.within step = .ok a ↔ c = .ok a := by
  cases c <;> simp [Checked.within]

theorem Checked.ofExcept_ok {read : Except Cause α} :
    Checked.ofExcept read = .ok a ↔ read = .ok a := by
  cases read <;> simp [Checked.ofExcept, Checked.refuse]

end

section
variable {α : Type} {check : Value → Checked α} {empty v : Value} {entries : Entries}
  {key : String} {a a₀ : α}

def Value.readOptional (check : Value → Checked α) : Value → Checked (Option α)
  | .null => .ok none
  | v => (check v).map some

theorem Value.readOptional_some (h : v ≠ .null) :
    v.readOptional check = (check v).map some := by
  cases v with
  | null => exact absurd rfl h
  | _ => rfl

theorem Field.given?_single {p : Presence} :
    (Field.mk key key p).given? entries = (entries.get? key).map (key, ·) := by
  unfold Field.given?
  cases h : entries.get? key <;> simp

theorem Field.collapsing_given (h : entries.get? key = some v)
    (hcheck : check (v.collapse empty) = .ok a) :
    (Field.mk key key .collapsing).check check empty entries = .ok (some a) := by
  simp only [Field.check, Field.given?, h, Checked.within_ok, Presence.readGiven, hcheck,
    Except.map]

theorem Fields.check_cons {field : Field} {schema : Schema} {rest : Fields}
    {form : (Fields.cons field schema rest).Form} :
    (Fields.cons field schema rest).check entries = .ok form ↔
      field.check schema.check schema.empty entries = .ok form.1 ∧
        rest.check entries = .ok form.2 := by
  simp only [Fields.check, Checked.both_ok]

theorem Field.required_ok : (Field.mk key key .required).check check empty entries = .ok a ↔
    ∃ v, entries.get? key = some v ∧ check v = .ok a := by
  simp only [Field.check, Field.given?_single]
  cases entries.get? key with
  | none => simp [Presence.readAbsent]
  | some v => simp [Presence.readGiven, Checked.within_ok]

theorem Field.optional_ok {o : Option α} :
    (∃ slot, (Field.mk key key .optional).check check empty entries = .ok slot ∧ slot.join = o) ↔
      (entries.get key).readOptional check = .ok o := by
  simp only [Field.check, Field.given?_single, Entries.get]
  cases entries.get? key with
  | none => simp [Presence.readAbsent, Value.readOptional]
  | some v =>
    cases v
    all_goals
      simp only [Option.map_some, Presence.readGiven, Checked.within_ok, Option.getD_some,
        Value.readOptional, map_ok]
      grind

theorem Field.collapsing_ok (hempty : check empty = .ok a₀) :
    (∃ slot, (Field.mk key key .collapsing).check check empty entries = .ok slot ∧
      slot.getD a₀ = a) ↔ check ((entries.get key).collapse empty) = .ok a := by
  simp only [Field.check, Field.given?_single, Entries.get]
  cases entries.get? key with
  | none => simp [Presence.readAbsent, Value.collapse, hempty]
  | some v =>
    simp only [Option.map_some, Presence.readGiven, Checked.within_ok, map_ok,
      Option.getD_some]
    grind

end

section
variable {v : Value}

theorem dict_mapping {item : Schema} {form : (Schema.dict item).Form}
    (h : (Schema.dict item).check v = .ok form) : ∃ entries, v = .mapping entries := by
  cases v with
  | mapping entries => exact ⟨entries, rfl⟩
  | _ => simp [Schema.check, Checked.refuse] at h

theorem record_mapping {name : String} {fields : Fields} {form : (Schema.record name fields).Form}
    (h : (Schema.record name fields).check v = .ok form) : ∃ entries, v = .mapping entries := by
  cases v with
  | mapping entries => exact ⟨entries, rfl⟩
  | _ => simp [Schema.check, Checked.refuse] at h

end

-- -----------------------------------------------------------------------------
-- What a check lets through
-- -----------------------------------------------------------------------------

section
variable {α : Type} {check : Value → Checked α} {a : α} {entries : Entries}

theorem Checked.itemsFrom_mem {i : Nat} {values : List Value} {as : List α}
    (h : itemsFrom check i values = .ok as) (ha : a ∈ as) : ∃ v ∈ values, check v = .ok a := by
  induction values generalizing i as with
  | nil =>
    cases h
    simp at ha
  | cons v rest ih =>
    obtain ⟨⟨b, bs⟩, hboth, rfl⟩ := map_ok.mp h
    obtain ⟨hfirst, hrest⟩ := both_ok.mp hboth
    rcases List.mem_cons.mp ha with rfl | ha
    · exact ⟨v, List.mem_cons_self, within_ok.mp hfirst⟩
    · obtain ⟨w, hw, hcheck⟩ := ih hrest ha
      exact ⟨w, List.mem_cons_of_mem v hw, hcheck⟩

theorem checkEntries_mem {made : List (String × α)} {entry : String × α}
    (h : checkEntries check entries = .ok made) (hentry : entry ∈ made) :
    ∃ given ∈ entries, check given.2 = .ok entry.2 := by
  induction entries generalizing made with
  | nil =>
    cases h
    simp at hentry
  | cons given rest ih =>
    obtain ⟨⟨first, more⟩, hboth, rfl⟩ := map_ok.mp h
    obtain ⟨hfirst, hrest⟩ := Checked.both_ok.mp hboth
    rcases List.mem_cons.mp hentry with rfl | hentry
    · obtain ⟨-, hcontent⟩ := Checked.both_ok.mp hfirst
      exact ⟨given, List.mem_cons_self, Checked.within_ok.mp hcontent⟩
    · obtain ⟨found, hfound, hcheck⟩ := ih hrest hentry
      exact ⟨found, List.mem_cons_of_mem given hfound, hcheck⟩

end

/-- A property of the value of a field, if it has one. -/
def Presence.SlotAll {α : Type} (P : α → Prop) : (p : Presence) → p.Slot α → Prop
  | .required, a => P a
  | .optional, slot => ∀ a, slot = some (some a) → P a
  | .collapsing, slot => ∀ a, slot = some a → P a
  | .preset, slot => ∀ a, slot = some a → P a

section
variable {α : Type} {check : Value → Checked α} {empty v : Value} {Q : Value → Prop}
  {P : α → Prop}

theorem Presence.readGiven_all {p : Presence} {slot : p.Slot α}
    (hP : ∀ v a, Q v → check v = .ok a → P a) (hempty : Q empty) (hv : Q v)
    (h : p.readGiven check empty v = .ok slot) : p.SlotAll P slot := by
  cases p with
  | required => exact hP v slot hv h
  | optional =>
    rintro a rfl
    cases v
    case null => simp [readGiven] at h
    all_goals
      obtain ⟨b, hb, heq⟩ := map_ok.mp h
      cases heq
      exact hP _ a hv hb
  | collapsing =>
    rintro a rfl
    obtain ⟨b, hb, heq⟩ := map_ok.mp h
    cases heq
    refine hP _ a ?_ hb
    cases v
    case null => exact hempty
    all_goals exact hv
  | preset =>
    rintro a rfl
    obtain ⟨b, hb, heq⟩ := map_ok.mp h
    cases heq
    exact hP v a hv hb

theorem Presence.readAbsent_all {p : Presence} {slot : p.Slot α} {key : String}
    (h : p.readAbsent key = .ok slot) : p.SlotAll P slot := by
  cases p <;> cases h <;> simp [SlotAll]

theorem Field.check_all {field : Field} {entries : Entries} {slot : field.presence.Slot α}
    (hP : ∀ v a, Q v → check v = .ok a → P a) (hempty : Q empty)
    (hentries : ∀ name v, entries.get? name = some v → Q v)
    (h : field.check check empty entries = .ok slot) :
    field.presence.SlotAll P slot := by
  unfold Field.check at h
  split at h
  · rename_i spelling v hgiven
    refine Presence.readGiven_all hP hempty ?_ (Checked.within_ok.mp h)
    unfold Field.given? at hgiven
    split at hgiven
    · rename_i hfound
      cases hgiven
      exact hentries _ _ hfound
    · obtain ⟨w, hfound, heq⟩ := Option.map_eq_some_iff.mp hgiven
      cases heq
      exact hentries _ _ hfound
  · exact Presence.readAbsent_all h

end

end PodPolicy
