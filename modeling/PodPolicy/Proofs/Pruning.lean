import Mathlib.Logic.Relation
import PodPolicy.Proofs.FieldLaws

/-!
# Fields that are null

To drop a field that is null from a record is to leave its key out. Forms are settled
by making the one of absent and null into the other. `Schema.Drops.check`: a check finds
the same problems after a field is dropped as before, or makes a form that settles to
the same.
-/

namespace PodPolicy

-- -----------------------------------------------------------------------------
-- Dropping fields
-- -----------------------------------------------------------------------------

def Entries.erase (entries : Entries) (name : String) : Entries :=
  entries.filter fun entry => !entry.1.isText name

def Field.names (field : Field) : List String :=
  [field.key, field.spelling]

/-- Null counts as absent. -/
def Presence.allowsNull : Presence → Bool
  | .optional | .collapsing => true
  | .required | .preset => false

inductive Fields.Has (field : Field) (schema : Schema) : Fields → Prop
  | here {rest : Fields} : Has field schema (.cons field schema rest)
  | there {first : Field} {shape : Schema} {rest : Fields} (h : Has field schema rest) :
      Has field schema (.cons first shape rest)

/-- A value, and the same value without one field that is null in it: a field of the
record that it is, of which no other spelling is given, or one further within. -/
inductive Schema.Drops : Schema → Value → Value → Prop
  | field {name : String} {fields : Fields} {field : Field} {schema : Schema} {entries : Entries}
      {spelling : String} (hfield : fields.Has field schema)
      (hallows : field.presence.allowsNull = true)
      (hnull : field.given? entries = some (spelling, .null))
      (hother : ∀ other ∈ field.names, other ≠ spelling → entries.get? other = none) :
      Drops (.record name fields) (.mapping entries) (.mapping (entries.erase spelling))
  | within {name : String} {fields : Fields} {field : Field} {schema : Schema} {entries : Entries}
      {spelling : String} {v w : Value} (hfield : fields.Has field schema)
      (hgiven : field.given? entries = some (spelling, v)) (h : Drops schema v w) :
      Drops (.record name fields) (.mapping entries) (.mapping (entries.put (.text spelling) w))
  | item {schema : Schema} {before after : List Value} {v w : Value} (h : Drops schema v w) :
      Drops (.list schema) (.list (before ++ v :: after)) (.list (before ++ w :: after))

theorem Schema.Drops.of_erase {name : String} {fields : Fields} {field : Field} {schema : Schema}
    {entries changed : Entries} {spelling : String} (hfield : fields.Has field schema)
    (hallows : field.presence.allowsNull = true)
    (hnull : field.given? entries = some (spelling, .null))
    (hother : ∀ other ∈ field.names, other ≠ spelling → entries.get? other = none)
    (herase : entries.erase spelling = changed) :
    Drops (.record name fields) (.mapping entries) (.mapping changed) :=
  herase ▸ .field hfield hallows hnull hother

theorem Schema.Drops.of_put {name : String} {fields : Fields} {field : Field} {schema : Schema}
    {entries changed : Entries} {spelling : String} {v w : Value} (hfield : fields.Has field schema)
    (hgiven : field.given? entries = some (spelling, v)) (h : Drops schema v w)
    (hput : entries.put (.text spelling) w = changed) :
    Drops (.record name fields) (.mapping entries) (.mapping changed) :=
  hput ▸ .within hfield hgiven h

/-- The same value, or the same without one field that is null in it. -/
abbrev Schema.Prunes (s : Schema) : Value → Value → Prop :=
  Relation.ReflGen s.Drops

-- -----------------------------------------------------------------------------
-- Settled forms
-- -----------------------------------------------------------------------------

/-- Null becomes absent, but where it stands for an empty value: there, absent
becomes that value. -/
def Presence.settle {α : Type} (settle : α → α) (empty : Option α) :
    (p : Presence) → p.Slot α → p.Slot α
  | .required, a => settle a
  | .optional, slot => slot.join.map fun a => some (settle a)
  | .collapsing, slot => (slot.or empty).map settle
  | .preset, slot => slot.map settle

mutual
/-- The form without the difference of absent and null, and without the entries that
no field took. -/
def Schema.settle : (s : Schema) → s.Form → s.Form
  | .list item, items => items.map item.settle
  | .record _ fields, (declared, _) => (fields.settle declared, [])
  | .dict _, entries => entries
  | .bool, b => b
  | .int, n => n
  | .text, s => s
  | .quantity, s => s
  | .label, s => s
  | .any, v => v
def Fields.settle : (fs : Fields) → fs.Form → fs.Form
  | .nil, form => form
  | .cons field schema rest, (slot, more) =>
    (field.presence.settle schema.settle (schema.check schema.empty).toOption slot,
      rest.settle more)
end

def Fields.names : Fields → List String
  | .nil => []
  | .cons field _ rest => field.names ++ rest.names

mutual
/-- No two fields of a record share a name, and the empty value that null stands for
in a field has the shape of the field. -/
def Schema.isTolerant : Schema → Bool
  | .list item => item.isTolerant
  | .record _ fields => fields.isTolerant
  | _ => true
def Fields.isTolerant : Fields → Bool
  | .nil => true
  | .cons field schema rest =>
    field.names.all (fun name => !rest.names.contains name) &&
      (field.presence != .collapsing || (schema.check schema.empty).isOk) &&
      schema.isTolerant && rest.isTolerant
end

theorem Declared.pod_isTolerant : Declared.pod.isTolerant = true := by
  decide

-- -----------------------------------------------------------------------------
-- The fields of a record
-- -----------------------------------------------------------------------------

section
variable {field other : Field} {schema shape : Schema} {fields rest : Fields} {name : String}

theorem Field.emptyStands_iff (field : Field) :
    (field.presence != .collapsing || (schema.check schema.empty).isOk) = true ↔
      (field.presence = .collapsing → ∃ form, schema.check schema.empty = .ok form) := by
  cases schema.check schema.empty <;> simp [Except.isOk, Except.toBool, bne]

theorem Fields.isTolerant_cons : (cons field schema rest).isTolerant = true ↔
    (∀ name ∈ field.names, name ∉ rest.names) ∧
      (field.presence = .collapsing → ∃ form, schema.check schema.empty = .ok form) ∧
      schema.isTolerant = true ∧ rest.isTolerant = true := by
  simp only [isTolerant, Bool.and_eq_true, field.emptyStands_iff, List.all_eq_true,
    Bool.not_eq_true', List.contains_eq_mem, decide_eq_false_iff_not, and_assoc]

namespace Fields.Has

theorem names (h : fields.Has field schema) (hname : name ∈ field.names) : name ∈ fields.names := by
  induction h with
  | here => exact List.mem_append_left _ hname
  | there _ ih => exact List.mem_append_right _ ih

theorem tolerant (h : fields.Has field schema) (htolerant : fields.isTolerant = true) :
    schema.isTolerant = true ∧
      (field.presence = .collapsing → ∃ form, schema.check schema.empty = .ok form) := by
  induction h with
  | here =>
    obtain ⟨-, hempty, hschema, -⟩ := isTolerant_cons.mp htolerant
    exact ⟨hschema, hempty⟩
  | there _ ih => exact ih (isTolerant_cons.mp htolerant).2.2.2

theorem same_or_apart (h : fields.Has field schema) (h' : fields.Has other shape)
    (htolerant : fields.isTolerant = true) :
    field = other ∧ schema = shape ∨ ∀ name ∈ other.names, name ∉ field.names := by
  induction h with
  | here =>
    obtain ⟨hnames, -⟩ := isTolerant_cons.mp htolerant
    cases h' with
    | here => exact .inl ⟨rfl, rfl⟩
    | there h' => exact .inr fun name hother hfield => hnames name hfield (h'.names hother)
  | there h ih =>
    obtain ⟨hnames, -, -, hrest⟩ := isTolerant_cons.mp htolerant
    cases h' with
    | here => exact .inr fun name hother hfield => hnames name hother (h.names hfield)
    | there h' => exact ih h' hrest

end Fields.Has

end

-- -----------------------------------------------------------------------------
-- Entries before and after
-- -----------------------------------------------------------------------------

namespace Checked

variable {α β γ δ : Type} {c : Checked α} {d : Checked β}

theorem map_within {f : α → β} {step : Step} : (c.within step).map f = within step (c.map f) := by
  cases c <;> rfl

theorem map_both {f : α → γ} {g : β → δ} :
    (c.both d).map (Prod.map f g) = both (c.map f) (d.map g) := by
  cases c <;> cases d <;> rfl

theorem map_second {g : β → δ} :
    ((c.both d).map Prod.snd).map g = (c.both (d.map g)).map Prod.snd := by
  cases c <;> cases d <;> rfl

end Checked

section
variable {entries changed rest : Entries} {name other : String} {key v w : Value} {field : Field}

def Value.isName : Value → Bool
  | .text _ => true
  | _ => false

namespace Entries

theorem get?_erase_same : (entries.erase name).get? name = none := by
  rw [erase, get?_filter fun key => !key.isText name]
  simp [Value.isText]

theorem get?_erase_other (hne : other ≠ name) :
    (entries.erase name).get? other = entries.get? other := by
  rw [erase, get?_filter fun key => !key.isText name]
  simp [Value.isText, hne]

def strange (entries : Entries) : Entries :=
  entries.filter fun entry => !entry.1.isName

theorem strange_erase : (entries.erase name).strange = entries.strange := by
  simp only [strange, erase, List.filter_filter]
  congr 1
  funext entry
  cases h : entry.1 <;> simp [Value.isName, Value.isText]

theorem strange_put : (entries.put (.text name) v).strange = entries.strange := by
  induction entries with
  | nil => rfl
  | cons entry rest ih =>
    obtain ⟨key, w⟩ := entry
    simp only [strange, put] at ih
    cases h : key.isText name with
    | true =>
      rw [Value.isText_iff.mp h]
      simp [strange, put, Keyed.put, Value.sameKey_text, Value.isText, Value.isName]
    | false => simp [strange, put, Keyed.put, Value.sameKey_text, h, List.filter_cons, ih]

end Entries

theorem checkExtras_strange {taken : List String} (h : key.isName = false) :
    checkExtras taken ((key, v) :: rest) =
      (((Checked.refuse .keyNotText : Checked Unit).within (.key key)).both
        (checkExtras taken rest)).map (·.2) := by
  cases key with
  | text other => cases h
  | _ => rfl

theorem checkExtras_map {taken : List String} {α : Type} {a : α} :
    (checkExtras taken entries).map (fun _ => a) =
      (checkExtras [] entries.strange).map (fun _ => a) := by
  induction entries with
  | nil => rfl
  | cons entry rest ih =>
    obtain ⟨key, v⟩ := entry
    cases hname : key.isName with
    | true =>
      have hstrange : Entries.strange ((key, v) :: rest) = Entries.strange rest := by
        simp [Entries.strange, hname]
      rw [hstrange, ← ih]
      cases key with
      | text other =>
        simp only [checkExtras]
        split
        · rfl
        · cases checkExtras taken rest <;> rfl
      | _ => cases hname
    | false =>
      have hstrange : Entries.strange ((key, v) :: rest) = (key, v) :: Entries.strange rest := by
        simp [Entries.strange, hname]
      rw [hstrange, checkExtras_strange hname, checkExtras_strange hname, Checked.map_second,
        Checked.map_second, ih]

theorem checkExtras_same {taken taken' : List String} {α : Type} {a : α}
    (h : entries.strange = changed.strange) :
    (checkExtras taken entries).map (fun _ => a) =
      (checkExtras taken' changed).map (fun _ => a) :=
  checkExtras_map.trans (h ▸ checkExtras_map.symm)

theorem Field.given?_congr (h : ∀ name ∈ field.names, changed.get? name = entries.get? name) :
    field.given? changed = field.given? entries := by
  simp only [Field.names, List.forall_mem_cons, List.not_mem_nil, false_implies, implies_true,
    and_true] at h
  simp only [Field.given?, h.1, h.2]

theorem Field.given?_get? {spelling : String} (h : field.given? entries = some (spelling, v)) :
    spelling ∈ field.names ∧ entries.get? spelling = some v := by
  unfold Field.given? at h
  split at h
  · rename_i hkey
    cases h
    exact ⟨List.mem_cons_self, hkey⟩
  · obtain ⟨_, hspelling, heq⟩ := Option.map_eq_some_iff.mp h
    cases heq
    exact ⟨by simp [names], hspelling⟩

theorem Field.given?_erase {spelling : String}
    (h : ∀ name ∈ field.names, name ≠ spelling → entries.get? name = none) :
    field.given? (entries.erase spelling) = none := by
  have hnone (name : String) (hname : name ∈ field.names) :
      (entries.erase spelling).get? name = none := by
    by_cases heq : name = spelling
    · rw [heq, Entries.get?_erase_same]
    · rw [Entries.get?_erase_other heq, h name hname heq]
  simp only [given?, hnone field.key (by simp [names]), hnone field.spelling (by simp [names]),
    Option.map_none]

theorem Field.given?_put {spelling : String} (h : field.given? entries = some (spelling, v)) :
    field.given? (entries.put (.text spelling) w) = some (spelling, w) := by
  unfold given? at h
  split at h
  · cases h
    simp only [given?, Entries.get?_put_same]
  · rename_i hkey
    obtain ⟨_, hfound, heq⟩ := Option.map_eq_some_iff.mp h
    cases heq
    have hne : field.key ≠ field.spelling := by
      intro heq
      rw [heq, hfound] at hkey
      cases hkey
    simp only [given?, Entries.get?_put_other hne, hkey, Entries.get?_put_same, Option.map_some]

end

-- -----------------------------------------------------------------------------
-- Checks before and after
-- -----------------------------------------------------------------------------

section
variable {α β : Type} {check : Value → Checked α} {f : α → α} {settled : Option α}
  {empty v w : Value} {entries changed : Entries} {field : Field} {schema : Schema}

theorem Checked.itemsFrom_congr {g : α → β} {before after : List Value}
    (h : (check v).map g = (check w).map g) (i : Nat) :
    (itemsFrom check i (before ++ v :: after)).map (List.map g) =
      (itemsFrom check i (before ++ w :: after)).map (List.map g) := by
  have hcons (i : Nat) (v : Value) (rest : List Value) :
      (itemsFrom check i (v :: rest)).map (List.map g) =
        (both (within (.index i) ((check v).map g))
          ((itemsFrom check (i + 1) rest).map (List.map g))).map fun part => part.1 :: part.2 := by
    rw [← map_within, ← map_both, itemsFrom]
    cases (within (.index i) (check v)).both (itemsFrom check (i + 1) rest) <;> rfl
  induction before generalizing i with
  | nil => rw [List.nil_append, List.nil_append, hcons, hcons, h]
  | cons first rest ih => rw [List.cons_append, List.cons_append, hcons, hcons, ih]

theorem Schema.Drops.ne_null {s : Schema} (h : s.Drops v w) : v ≠ .null ∧ w ≠ .null := by
  cases h <;> exact ⟨nofun, nofun⟩

def Presence.place : (p : Presence) → α → p.Slot α
  | .required, a => a
  | .optional, a => some (some a)
  | .collapsing, a => some a
  | .preset, a => some a

theorem Presence.readGiven_place {p : Presence} (hv : v ≠ .null) :
    p.readGiven check empty v = (check v).map p.place := by
  cases p with
  | required => cases h : check v <;> exact h
  | optional =>
    cases v with
    | null => exact absurd rfl hv
    | _ => rfl
  | collapsing =>
    cases v with
    | null => exact absurd rfl hv
    | _ => rfl
  | preset => rfl

theorem Presence.readGiven_settle {p : Presence} (hv : v ≠ .null) :
    (p.readGiven check empty v).map (p.settle f settled) = ((check v).map f).map p.place := by
  rw [readGiven_place hv]
  cases check v with
  | error problems => rfl
  | ok a => cases p <;> rfl

theorem Presence.readNull_settle {p : Presence} {key : String} {step : Step}
    (hallows : p.allowsNull = true) (hempty : p = .collapsing → ∃ e, check empty = .ok e) :
    ((p.readGiven check empty .null).within step).map (p.settle f (check empty).toOption) =
      (p.readAbsent key).map (p.settle f (check empty).toOption) := by
  cases p with
  | required => cases hallows
  | preset => cases hallows
  | optional => rfl
  | collapsing =>
    obtain ⟨e, he⟩ := hempty rfl
    simp [readGiven, readAbsent, Value.collapse, he, Except.map, settle, Except.toOption,
      Checked.within]

/-- The field's result, settled, is the same before and after a change. -/
def Field.Same (field : Field) (schema : Schema) (entries changed : Entries) : Prop :=
  (field.check schema.check schema.empty entries).map
      (field.presence.settle schema.settle (schema.check schema.empty).toOption) =
    (field.check schema.check schema.empty changed).map
      (field.presence.settle schema.settle (schema.check schema.empty).toOption)

theorem Fields.check_same : (fs : Fields) →
    (∀ field schema, fs.Has field schema → field.Same schema entries changed) →
      (fs.check entries).map fs.settle = (fs.check changed).map fs.settle
  | .nil, _ => rfl
  | .cons field schema rest, h => by
    have hsettle : (cons field schema rest).settle = Prod.map
        (field.presence.settle schema.settle (schema.check schema.empty).toOption) rest.settle :=
      rfl
    have hfield : field.Same schema entries changed := h field schema .here
    have hrest := rest.check_same fun field schema hhas => h field schema (.there hhas)
    rw [Field.Same] at hfield
    rw [hsettle, Fields.check, Fields.check, Checked.map_both, Checked.map_both, hfield, hrest]

theorem Schema.record_same {name : String} {fields : Fields}
    (hfields : ∀ field schema, fields.Has field schema → field.Same schema entries changed)
    (hstrange : entries.strange = changed.strange) :
    ((record name fields).check (.mapping entries)).map (record name fields).settle =
      ((record name fields).check (.mapping changed)).map (record name fields).settle := by
  have hsettle : (record name fields).settle = Prod.map fields.settle fun _ => [] := rfl
  rw [hsettle, Schema.check, Schema.check, Checked.map_both, Checked.map_both,
    fields.check_same hfields, checkExtras_same hstrange]

theorem Field.same_of_given (h : field.given? changed = field.given? entries) :
    field.Same schema entries changed := by
  simp only [Same, Field.check, h]

theorem Field.same_of_null {spelling : String} (hallows : field.presence.allowsNull = true)
    (hempty : field.presence = .collapsing → ∃ form, schema.check schema.empty = .ok form)
    (hnull : field.given? entries = some (spelling, .null))
    (habsent : field.given? changed = none) : field.Same schema entries changed := by
  simp only [Same, Field.check, hnull, habsent]
  exact Presence.readNull_settle hallows hempty

theorem Field.same_of_within {spelling : String} (hv : v ≠ .null) (hw : w ≠ .null)
    (h : (schema.check v).map schema.settle = (schema.check w).map schema.settle)
    (hgiven : field.given? entries = some (spelling, v))
    (hchanged : field.given? changed = some (spelling, w)) : field.Same schema entries changed := by
  simp only [Same, Field.check, hgiven, hchanged, Checked.map_within,
    Presence.readGiven_settle hv, Presence.readGiven_settle hw, h]

end

/-- A dropped field leaves the check as it was, but for what is null or absent. -/
theorem Schema.Drops.check {s : Schema} {v w : Value} (h : s.Drops v w)
    (htolerant : s.isTolerant = true) :
    (s.check v).map s.settle = (s.check w).map s.settle := by
  induction h with
  | @field name fields field schema entries spelling hfield hallows hnull hother =>
    refine record_same (fun other shape hhas => ?_) Entries.strange_erase.symm
    obtain ⟨hspelling, -⟩ := Field.given?_get? hnull
    rcases hfield.same_or_apart hhas htolerant with ⟨rfl, rfl⟩ | hapart
    · refine Field.same_of_null hallows (hfield.tolerant htolerant).2 hnull ?_
      exact Field.given?_erase hother
    · refine Field.same_of_given (Field.given?_congr fun name hname => ?_)
      exact Entries.get?_erase_other (by rintro rfl; exact hapart name hname hspelling)
  | @within name fields field schema entries spelling v w hfield hgiven hdrops ih =>
    refine record_same (fun other shape hhas => ?_) Entries.strange_put.symm
    obtain ⟨hspelling, -⟩ := Field.given?_get? hgiven
    rcases hfield.same_or_apart hhas htolerant with ⟨rfl, rfl⟩ | hapart
    · exact Field.same_of_within hdrops.ne_null.1 hdrops.ne_null.2
        (ih (hfield.tolerant htolerant).1) hgiven (Field.given?_put hgiven)
    · refine Field.same_of_given (Field.given?_congr fun name hname => ?_)
      exact Entries.get?_put_other (by rintro rfl; exact hapart name hname hspelling)
  | item h ih => exact Checked.itemsFrom_congr (ih htolerant) 0

section
variable {name key : String} {fields : Fields} {p : Presence} {schema : Schema}
  {entries changed : Entries} {v w : Value}

theorem Schema.Drops.mappings (h : (record name fields).Drops v w) :
    ∃ entries changed, v = .mapping entries ∧ w = .mapping changed := by
  cases h <;> exact ⟨_, _, rfl, rfl⟩

theorem Schema.Drops.get (h : (record name fields).Drops (.mapping entries) (.mapping changed))
    (htolerant : fields.isTolerant = true) (hkey : fields.Has ⟨key, key, p⟩ schema) :
    schema.Prunes (entries.get key) (changed.get key) := by
  have hmem : key ∈ (Field.mk key key p).names := List.mem_cons_self
  cases h with
  | @field _ _ field _ _ spelling hfield hallows hnull hother =>
    obtain ⟨hspelling, hget⟩ := Field.given?_get? hnull
    rcases hfield.same_or_apart hkey htolerant with ⟨rfl, rfl⟩ | hapart
    · obtain rfl : spelling = key := by simpa [Field.names] using hspelling
      simp only [Entries.get, hget, Entries.get?_erase_same, Option.getD_some, Option.getD_none]
      exact .refl
    · have hne : key ≠ spelling := by
        rintro rfl
        exact hapart key hmem hspelling
      simp only [Entries.get, Entries.get?_erase_other hne]
      exact .refl
  | @within _ _ field _ _ spelling v w hfield hgiven hdrops =>
    obtain ⟨hspelling, hget⟩ := Field.given?_get? hgiven
    rcases hfield.same_or_apart hkey htolerant with ⟨rfl, rfl⟩ | hapart
    · obtain rfl : spelling = key := by simpa [Field.names] using hspelling
      rw [Entries.get_put_same, Entries.get_of_get? hget]
      exact .single hdrops
    · have hne : key ≠ spelling := by
        rintro rfl
        exact hapart key hmem hspelling
      rw [Entries.get_put_other hne]

theorem Schema.Prunes.get (h : (record name fields).Prunes (.mapping entries) (.mapping changed))
    (htolerant : fields.isTolerant = true) (hkey : fields.Has ⟨key, key, p⟩ schema) :
    schema.Prunes (entries.get key) (changed.get key) := by
  cases h with
  | refl => exact .refl
  | single h => exact h.get htolerant hkey

end

end PodPolicy
