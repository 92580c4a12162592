import PodPolicy.Proofs.Pruning

/-!
# Alike to a schema

Two values are alike to a schema if they give the same to what it declares: the same
values for its fields, whatever else stands beside them. A latitude allows for
fields that are given in their other spelling, or for other content in mappings that
may hold anything. `Schema.Alike.check`: a check takes values that are alike the same
way, or finds the same problems in both, one by one, in places that correspond.

Of a field that is given in both spellings the first one counts. What stands under
the other one is free.
-/

namespace PodPolicy

-- -----------------------------------------------------------------------------
-- Values that are alike
-- -----------------------------------------------------------------------------

/-- What values that are alike may differ in. -/
structure Latitude where
  /-- The spelling in which a field is given. -/
  spellings : Bool
  /-- What is in a mapping that may hold anything. -/
  contents : Bool

namespace Latitude

def narrow : Latitude where
  spellings := false
  contents := false

def ofSpellings : Latitude where
  spellings := true
  contents := false

def ofContents : Latitude where
  spellings := false
  contents := true

end Latitude

/-- A field is absent from both mappings, or given in both with values that are alike. -/
inductive Field.Alike (l : Latitude) (alike : Value → Value → Prop) (field : Field)
    (entries changed : Entries) : Prop
  | absent (h : field.given? entries = none) (h' : field.given? changed = none)
  | given {spelling spelling' : String} {v w : Value}
      (h : field.given? entries = some (spelling, v))
      (h' : field.given? changed = some (spelling', w))
      (hspelling : l.spellings = true ∨ spelling = spelling') (hvalue : alike v w)

mutual
def Schema.Alike (l : Latitude) : Schema → Value → Value → Prop
  | .list item, v, w => v = w ∨
    ∃ items changed, v = .list items ∧ w = .list changed ∧
      List.Forall₂ (item.Alike l) items changed
  | .dict item, v, w => v = w ∨
    (l.contents = true ∧ item = .any) ∧
      ∃ entries changed, v = .mapping entries ∧ w = .mapping changed ∧
        Entries.strange entries = Entries.strange changed
  | .record _ fields, v, w => v = w ∨
    ∃ entries changed, v = .mapping entries ∧ w = .mapping changed ∧
      Entries.strange entries = Entries.strange changed ∧ fields.Alike l entries changed
  | _, v, w => v = w
def Fields.Alike (l : Latitude) : Fields → Entries → Entries → Prop
  | .nil, _, _ => True
  | .cons field schema rest, entries, changed =>
    field.Alike l (schema.Alike l) entries changed ∧ rest.Alike l entries changed
end

section
variable {l : Latitude} {s item schema : Schema} {v w : Value} {name : String} {fields : Fields}
  {field : Field} {entries changed : Entries}

theorem Schema.alike_list : (Schema.list item).Alike l v w ↔ v = w ∨
    ∃ items changed, v = .list items ∧ w = .list changed ∧
      List.Forall₂ (item.Alike l) items changed := by
  rw [Alike]

theorem Schema.alike_dict : (Schema.dict item).Alike l v w ↔ v = w ∨
    (l.contents = true ∧ item = .any) ∧
      ∃ entries changed, v = .mapping entries ∧ w = .mapping changed ∧
        Entries.strange entries = Entries.strange changed := by
  rw [Alike]

theorem Schema.alike_record : (Schema.record name fields).Alike l v w ↔ v = w ∨
    ∃ entries changed, v = .mapping entries ∧ w = .mapping changed ∧
      Entries.strange entries = Entries.strange changed ∧ fields.Alike l entries changed := by
  rw [Alike]

theorem Fields.alike_iff : {fields : Fields} → (fields.Alike l entries changed ↔
    ∀ field schema, fields.Has field schema → field.Alike l (schema.Alike l) entries changed)
  | .nil => by
    rw [Fields.Alike, true_iff]
    exact nofun
  | .cons field schema rest => by
    rw [Fields.Alike, Fields.alike_iff]
    constructor
    · rintro ⟨hfield, hrest⟩ _ _ hhas
      cases hhas with
      | here => exact hfield
      | there hhas => exact hrest _ _ hhas
    · exact fun h => ⟨h _ _ .here, fun _ _ hhas => h _ _ (.there hhas)⟩

@[refl]
theorem Schema.Alike.refl (s : Schema) (v : Value) : s.Alike l v v := by
  cases s <;> simp [Alike]

theorem Field.Alike.of_eq (h : field.given? entries = field.given? changed) :
    field.Alike l (schema.Alike l) entries changed := by
  cases hgiven : field.given? changed with
  | none => exact .absent (h.trans hgiven) hgiven
  | some given => exact .given (h.trans hgiven) hgiven (.inr rfl) (.refl schema given.2)

theorem Schema.Alike.of_fields (hstrange : entries.strange = changed.strange)
    (h : ∀ field schema, fields.Has field schema → field.Alike l (schema.Alike l) entries changed) :
    (Schema.record name fields).Alike l (.mapping entries) (.mapping changed) :=
  alike_record.mpr (.inr ⟨entries, changed, rfl, rfl, hstrange, Fields.alike_iff.mpr h⟩)

end

-- -----------------------------------------------------------------------------
-- What mappings that are alike give
-- -----------------------------------------------------------------------------

section
variable {l : Latitude} {schema : Schema} {v w : Value} {name key : String} {fields : Fields}
  {field : Field} {entries changed : Entries} {p : Presence}

theorem Schema.Alike.mappings (h : (Schema.record name fields).Alike l v w) :
    v = w ∨ ∃ entries changed, v = .mapping entries ∧ w = .mapping changed := by
  rcases alike_record.mp h with rfl | ⟨entries, changed, rfl, rfl, -⟩
  · exact .inl rfl
  · exact .inr ⟨entries, changed, rfl, rfl⟩

theorem Schema.Alike.given
    (h : (Schema.record name fields).Alike l (.mapping entries) (.mapping changed))
    (hhas : fields.Has field schema) : field.Alike l (schema.Alike l) entries changed := by
  rcases alike_record.mp h with heq | ⟨_, _, ⟨⟩, ⟨⟩, -, hfields⟩
  · cases heq
    exact .of_eq rfl
  · exact Fields.alike_iff.mp hfields field schema hhas

theorem Field.Alike.get {alike : Value → Value → Prop}
    (h : (Field.mk key key p).Alike l alike entries changed) :
    entries.get? key = none ∧ changed.get? key = none ∨
      ∃ v w, entries.get? key = some v ∧ changed.get? key = some w ∧ alike v w := by
  cases h with
  | absent hnone hnone' =>
    rw [Field.given?_single, Option.map_eq_none_iff] at hnone hnone'
    exact .inl ⟨hnone, hnone'⟩
  | given hgiven hgiven' _ hvalue =>
    rw [Field.given?_single, Option.map_eq_some_iff] at hgiven hgiven'
    obtain ⟨_, hfound, ⟨⟩⟩ := hgiven
    obtain ⟨_, hfound', ⟨⟩⟩ := hgiven'
    exact .inr ⟨_, _, hfound, hfound', hvalue⟩

theorem Schema.Alike.get
    (h : (Schema.record name fields).Alike l (.mapping entries) (.mapping changed))
    (hkey : fields.Has ⟨key, key, p⟩ schema) :
    schema.Alike l (entries.get key) (changed.get key) := by
  rcases (h.given hkey).get with ⟨hnone, hnone'⟩ | ⟨v, w, hfound, hfound', hvalue⟩
  · rw [Entries.get, Entries.get, hnone, hnone']
  · rwa [Entries.get_of_get? hfound, Entries.get_of_get? hfound']

theorem Schema.Alike.has
    (h : (Schema.record name fields).Alike l (.mapping entries) (.mapping changed))
    (hkey : fields.Has ⟨key, key, p⟩ schema) : entries.has key = changed.has key := by
  rcases (h.given hkey).get with ⟨hnone, hnone'⟩ | ⟨v, w, hfound, hfound', -⟩
  · rw [Entries.has, Entries.has, hnone, hnone']
  · rw [Entries.has, Entries.has, hfound, hfound', Option.isSome_some, Option.isSome_some]

end

-- -----------------------------------------------------------------------------
-- Changes that keep values alike
-- -----------------------------------------------------------------------------

section
variable {l : Latitude} {item schema : Schema} {v w : Value} {name other : String}
  {fields : Fields} {field : Field} {entries changed more : Entries} {spelling : String}

theorem Field.Alike.trans {alike : Value → Value → Prop}
    (htrans : ∀ u v w, alike u v → alike v w → alike u w)
    (h : field.Alike l alike entries changed) (h' : field.Alike l alike changed more) :
    field.Alike l alike entries more := by
  cases h with
  | absent hnone hnone' =>
    cases h' with
    | absent _ hlast => exact .absent hnone hlast
    | given hfirst => exact absurd (hfirst.symm.trans hnone') nofun
  | given hgiven hgiven' hspelling hvalue =>
    cases h' with
    | absent hfirst => exact absurd (hgiven'.symm.trans hfirst) nofun
    | given hfirst hlast hspelling' hvalue' =>
      cases hgiven'.symm.trans hfirst
      refine .given hgiven hlast ?_ (htrans _ _ _ hvalue hvalue')
      rcases hspelling with hfree | rfl
      · exact .inl hfree
      · exact hspelling'

theorem forall₂_trans {α : Type} {R : α → α → Prop} (hR : ∀ a b c, R a b → R b c → R a c)
    {as bs cs : List α} (h : List.Forall₂ R as bs) (h' : List.Forall₂ R bs cs) :
    List.Forall₂ R as cs := by
  induction h generalizing cs with
  | nil => exact h'
  | cons hab _ ih =>
    cases h' with
    | cons hbc hrest => exact .cons (hR _ _ _ hab hbc) (ih hrest)

mutual
theorem Schema.Alike.trans : (s : Schema) → {u v w : Value} → s.Alike l u v → s.Alike l v w →
    s.Alike l u w
  | .list item, u, v, w, h, h' => by
    rcases Schema.alike_list.mp h with rfl | ⟨items, changed, rfl, rfl, hitems⟩
    · exact h'
    · rcases Schema.alike_list.mp h' with rfl | ⟨_, more, ⟨⟩, rfl, hitems'⟩
      · exact h
      · exact Schema.alike_list.mpr (.inr ⟨items, more, rfl, rfl,
          forall₂_trans (R := item.Alike l) (fun _ _ _ h h' => Schema.Alike.trans item h h')
            hitems hitems'⟩)
  | .dict item, u, v, w, h, h' => by
    rcases Schema.alike_dict.mp h with rfl | ⟨hfree, entries, _, rfl, rfl, hstrange⟩
    · exact h'
    · rcases Schema.alike_dict.mp h' with rfl | ⟨-, _, more, ⟨⟩, rfl, hstrange'⟩
      · exact h
      · exact Schema.alike_dict.mpr
          (.inr ⟨hfree, entries, more, rfl, rfl, hstrange.trans hstrange'⟩)
  | .record name fields, u, v, w, h, h' => by
    rcases Schema.alike_record.mp h with rfl | ⟨entries, _, rfl, rfl, hstrange, hfields⟩
    · exact h'
    · rcases Schema.alike_record.mp h' with rfl | ⟨_, more, ⟨⟩, rfl, hstrange', hfields'⟩
      · exact h
      · exact Schema.alike_record.mpr (.inr ⟨entries, more, rfl, rfl, hstrange.trans hstrange',
          Fields.Alike.trans fields hfields hfields'⟩)
  | .bool, _, _, _, h, h' | .int, _, _, _, h, h' | .text, _, _, _, h, h'
  | .quantity, _, _, _, h, h' | .label, _, _, _, h, h' | .any, _, _, _, h, h' => by
    simp only [Schema.Alike] at h h' ⊢
    exact h.trans h'
theorem Fields.Alike.trans : (fs : Fields) → {entries changed more : Entries} →
    fs.Alike l entries changed → fs.Alike l changed more → fs.Alike l entries more
  | .nil, _, _, _, _, _ => by
    rw [Fields.Alike]
    trivial
  | .cons field schema rest, _, _, _, h, h' => by
    rw [Fields.Alike] at h h' ⊢
    exact ⟨h.1.trans (fun _ _ _ h h' => Schema.Alike.trans schema h h') h'.1,
      Fields.Alike.trans rest h.2 h'.2⟩
end

theorem Schema.Alike.put_other (name : String) (hname : name ∉ fields.names)
    (hput : entries.put (.text name) v = changed) :
    (Schema.record other fields).Alike l (.mapping entries) (.mapping changed) := by
  subst hput
  refine of_fields Entries.strange_put.symm fun field schema hhas => .of_eq ?_
  refine (Field.given?_congr fun given hgiven => ?_).symm
  exact Entries.get?_put_other (by rintro rfl; exact hname (hhas.names hgiven))

theorem Schema.Alike.erase_other (name : String) (hname : name ∉ fields.names)
    (herase : entries.erase name = changed) :
    (Schema.record other fields).Alike l (.mapping entries) (.mapping changed) := by
  subst herase
  refine of_fields Entries.strange_erase.symm fun field schema hhas => .of_eq ?_
  refine (Field.given?_congr fun given hgiven => ?_).symm
  exact Entries.get?_erase_other (by rintro rfl; exact hname (hhas.names hgiven))

theorem Schema.Alike.put_field (htolerant : fields.isTolerant = true)
    (hfield : fields.Has field schema) (hgiven : field.given? entries = some (spelling, v))
    (h : schema.Alike l v w) (hput : entries.put (.text spelling) w = changed) :
    (Schema.record other fields).Alike l (.mapping entries) (.mapping changed) := by
  subst hput
  obtain ⟨hspelling, -⟩ := Field.given?_get? hgiven
  refine of_fields Entries.strange_put.symm fun field' schema' hhas => ?_
  rcases hfield.same_or_apart hhas htolerant with ⟨rfl, rfl⟩ | hapart
  · exact .given hgiven (Field.given?_put hgiven) (.inr rfl) h
  · refine .of_eq (Field.given?_congr fun given hgiven' => ?_).symm
    exact Entries.get?_put_other (by rintro rfl; exact hapart given hgiven' hspelling)

theorem Schema.Alike.put_item (before after : List Value) (h : item.Alike l v w) :
    (Schema.list item).Alike l (.list (before ++ v :: after)) (.list (before ++ w :: after)) := by
  have hsame (items : List Value) : List.Forall₂ (item.Alike l) items items :=
    List.forall₂_same.mpr fun v _ => .refl item v
  exact alike_list.mpr (.inr ⟨_, _, rfl, rfl, List.rel_append (hsame before) (.cons h (hsame after))⟩)

end

-- -----------------------------------------------------------------------------
-- Places that correspond
-- -----------------------------------------------------------------------------

/-- A place in one value and a place in another one that is alike: the same steps,
but for the spellings of fields that are given in different ones. -/
inductive Schema.Corresponds (l : Latitude) :
    Schema → Value → Value → List Step → List Step → Prop
  | same {s : Schema} {v : Value} {path : List Step} : Corresponds l s v v path path
  | absent {name : String} {fields : Fields} {field : Field} {schema : Schema}
      {entries changed : Entries} (hfield : fields.Has field schema)
      (h : field.given? entries = none) (h' : field.given? changed = none) :
      Corresponds l (.record name fields) (.mapping entries) (.mapping changed)
        [.name field.key] [.name field.key]
  | given {name : String} {fields : Fields} {field : Field} {schema : Schema}
      {entries changed : Entries} {spelling spelling' : String} {v w : Value}
      {path path' : List Step} (hfield : fields.Has field schema)
      (h : field.given? entries = some (spelling, v))
      (h' : field.given? changed = some (spelling', w))
      (hspelling : l.spellings = true ∨ spelling = spelling')
      (hrest : Corresponds l schema v w path path') :
      Corresponds l (.record name fields) (.mapping entries) (.mapping changed)
        (.name spelling :: path) (.name spelling' :: path')
  | strange {name : String} {fields : Fields} {entries changed : Entries} {key : Value} :
      Corresponds l (.record name fields) (.mapping entries) (.mapping changed) [.key key] [.key key]
  | item {item : Schema} {items changed : List Value} {i : Nat} {v w : Value}
      {path path' : List Step} (h : items[i]? = some v) (h' : changed[i]? = some w)
      (hrest : Corresponds l item v w path path') :
      Corresponds l (.list item) (.list items) (.list changed)
        (.index i :: path) (.index i :: path')
  | key {entries changed : Entries} {path : List Step} :
      Corresponds l (.dict .any) (.mapping entries) (.mapping changed) path path

/-- Two problems are of one kind, in places that correspond. -/
def Problem.Corresponds (l : Latitude) (s : Schema) (v w : Value) (p q : Problem) : Prop :=
  p.cause = q.cause ∧ s.Corresponds l v w p.path q.path

theorem Schema.Corresponds.eq {l : Latitude} {s : Schema} {v w : Value} {path path' : List Step}
    (h : s.Corresponds l v w path path') (hl : l.spellings = false) : path = path' := by
  induction h with
  | same | absent | strange | key => rfl
  | given _ _ _ hspelling _ ih =>
    rcases hspelling with hfree | rfl
    · rw [hl] at hfree
      cases hfree
    · rw [ih]
  | item _ _ _ ih => rw [ih]

theorem Problem.Corresponds.eq {l : Latitude} {s : Schema} {v w : Value} {p q : Problem}
    (h : p.Corresponds l s v w q) (hl : l.spellings = false) : p = q := by
  obtain ⟨path, cause⟩ := p
  obtain ⟨path', cause'⟩ := q
  obtain ⟨rfl, hpath⟩ := h
  obtain rfl : path = path' := Schema.Corresponds.eq hpath hl
  rfl

-- -----------------------------------------------------------------------------
-- Results that match
-- -----------------------------------------------------------------------------

/-- Two checks give results that are the same under `f`, or problems that are related
one by one. -/
inductive Checked.Match {α β : Type} (P : Problem → Problem → Prop) (f : α → β) :
    Checked α → Checked α → Prop
  | ok {a b : α} (h : f a = f b) : Match P f (.ok a) (.ok b)
  | error {problems problems' : List Problem} (h : List.Forall₂ P problems problems') :
      Match P f (.error problems) (.error problems')

namespace Checked.Match

variable {α β γ δ : Type} {P Q : Problem → Problem → Prop} {f : α → β} {g : γ → δ}
  {c c' : Checked α} {d d' : Checked γ}

theorem refl (hP : ∀ p, P p p) (c : Checked α) : Match P f c c := by
  cases c with
  | ok a => exact .ok rfl
  | error problems => exact .error (List.forall₂_same.mpr fun p _ => hP p)

theorem of_same {b : β} (h : c.map (fun _ => ()) = c'.map fun _ => ())
    (hP : ∀ problems, c = .error problems → ∀ p ∈ problems, P p p) :
    Match P (fun _ => b) c c' := by
  cases c with
  | ok a =>
    cases c' with
    | ok a' => exact .ok rfl
    | error problems' => cases h
  | error problems =>
    cases c' with
    | ok a' => cases h
    | error problems' =>
      cases h
      exact .error (List.forall₂_same.mpr (hP problems rfl))

theorem both (h : Match P f c c') (h' : Match P g d d') :
    Match P (Prod.map f g) (c.both d) (c'.both d') := by
  cases h with
  | ok h =>
    cases h' with
    | ok h' => exact .ok (Prod.ext h h')
    | error h' => exact .error h'
  | error h =>
    cases h' with
    | ok h' => exact .error h
    | error h' => exact .error (List.rel_append h h')

theorem map {k : α → γ} (h : Match P f c c') (hk : ∀ a b, f a = f b → g (k a) = g (k b)) :
    Match P g (c.map k) (c'.map k) := by
  cases h with
  | ok h => exact .ok (hk _ _ h)
  | error h => exact .error h

theorem within {step step' : Step} (h : Match P f c c')
    (hP : ∀ p q, P p q → Q (p.within step) (q.within step')) :
    Match Q f (c.within step) (c'.within step') := by
  cases h with
  | ok h => exact .ok h
  | error h =>
    refine .error ?_
    rw [List.forall₂_map_left_iff, List.forall₂_map_right_iff]
    exact h.imp hP

theorem itemsFrom {check : Value → Checked α} {items changed : List Value} {i : Nat}
    (hlength : items.length = changed.length)
    (h : ∀ (k : Nat) v w, items[k]? = some v → changed[k]? = some w →
      Match P f ((check v).within (.index (i + k))) ((check w).within (.index (i + k)))) :
    Match P (List.map f) (itemsFrom check i items) (itemsFrom check i changed) := by
  induction items generalizing changed i with
  | nil =>
    obtain rfl := List.length_eq_zero_iff.mp hlength.symm
    exact .ok rfl
  | cons v rest ih =>
    cases changed with
    | nil => cases hlength
    | cons w more =>
      have hrest : Match P (List.map f) (Checked.itemsFrom check (i + 1) rest)
          (Checked.itemsFrom check (i + 1) more) := by
        refine ih (Nat.succ_inj.mp hlength) fun k v w hv hw => ?_
        have hstep := h (k + 1) v w hv hw
        rwa [Nat.add_comm k 1, ← Nat.add_assoc] at hstep
      refine ((h 0 v w rfl rfl).both hrest).map fun a b hab => ?_
      obtain ⟨hfirst, hmore⟩ := Prod.ext_iff.mp hab
      exact congrArg₂ List.cons hfirst hmore

end Checked.Match

-- -----------------------------------------------------------------------------
-- Forms without what is not looked at
-- -----------------------------------------------------------------------------

def Presence.mapSlot {α : Type} (f : α → α) : (p : Presence) → p.Slot α → p.Slot α
  | .required, a => f a
  | .optional, slot => slot.map (Option.map f)
  | .collapsing, slot => slot.map f
  | .preset, slot => slot.map f

mutual
/-- The form without the entries that no field took, and with mappings that may hold
anything under `f`. -/
def Schema.tidy (f : OpaqueMap → OpaqueMap) : (s : Schema) → s.Form → s.Form
  | .list item, items => items.map (item.tidy f)
  | .dict .any, entries => f entries
  | .record _ fields, (declared, _) => (fields.tidy f declared, [])
  | .dict _, entries => entries
  | .bool, b => b
  | .int, n => n
  | .text, s => s
  | .quantity, s => s
  | .label, s => s
  | .any, v => v
def Fields.tidy (f : OpaqueMap → OpaqueMap) : (fs : Fields) → fs.Form → fs.Form
  | .nil, form => form
  | .cons field schema rest, (slot, more) =>
    (field.presence.mapSlot (schema.tidy f) slot, rest.tidy f more)
end

/-- What a latitude leaves of a mapping that may hold anything. -/
def Latitude.keep (l : Latitude) (entries : OpaqueMap) : OpaqueMap :=
  if l.contents then [] else entries

-- -----------------------------------------------------------------------------
-- Checks of values that are alike
-- -----------------------------------------------------------------------------

section
variable {l : Latitude} {α β : Type} {P : Problem → Problem → Prop} {f : α → α}
  {read : Value → Checked α} {empty v w : Value} {entries changed rest : Entries} {name : String}
  {field : Field} {schema : Schema} {fields : Fields} {taken taken' : List String}
  {problems : List Problem}

theorem Presence.readGiven_match {p : Presence} (hv : v ≠ .null) (hw : w ≠ .null)
    (h : Checked.Match P f (read v) (read w)) :
    Checked.Match P (p.mapSlot f) (p.readGiven read empty v) (p.readGiven read empty w) := by
  rw [readGiven_place hv, readGiven_place hw]
  refine h.map fun a b hab => ?_
  cases p <;> simp [mapSlot, place, hab]

theorem checkExtras_path (h : checkExtras taken entries = .error problems) :
    ∀ p ∈ problems, ∃ key, p.path = [.key key] := by
  induction entries generalizing problems with
  | nil => cases h
  | cons entry rest ih =>
    obtain ⟨key, v⟩ := entry
    cases hname : key.isName with
    | true =>
      cases key with
      | text other =>
        simp only [checkExtras] at h
        split at h
        · exact ih h
        · exact ih (map_error.mp h)
      | _ => cases hname
    | false =>
      rw [checkExtras_strange hname, map_error] at h
      cases hrest : checkExtras taken rest with
      | ok extras =>
        rw [hrest] at h
        cases h
        simp [Problem.within]
      | error more =>
        rw [hrest] at h
        cases h
        exact List.forall_mem_cons.mpr ⟨⟨key, rfl⟩, ih hrest⟩

theorem checkExtras_match (h : entries.strange = changed.strange)
    (hP : ∀ key cause, P ⟨[.key key], cause⟩ ⟨[.key key], cause⟩) :
    Checked.Match P (fun _ => ([] : List (String × Value))) (checkExtras taken entries)
      (checkExtras taken' changed) := by
  refine .of_same (checkExtras_same h) fun problems hproblems p hp => ?_
  obtain ⟨key, hkey⟩ := checkExtras_path hproblems p hp
  obtain ⟨path, cause⟩ := p
  subst hkey
  exact hP key cause

theorem checkEntries_strange {a : β} :
    (checkEntries Schema.any.check entries).map (fun _ => a) =
      (checkEntries Schema.any.check entries.strange).map fun _ => a := by
  have hcons (key v : Value) (rest : Entries) :
      (checkEntries Schema.any.check ((key, v) :: rest)).map (fun _ => a) =
        ((((Checked.ofExcept (Scalar.readText key)).within .keyMark).within (.ofKey key)).both
          ((checkEntries Schema.any.check rest).map fun _ => a)).map Prod.snd := by
    have hvalue : (Schema.any.check v).within (.ofKey key) = .ok v := rfl
    rw [checkEntries, hvalue]
    cases ((Checked.ofExcept (Scalar.readText key)).within .keyMark).within (.ofKey key) <;>
      cases checkEntries Schema.any.check rest <;> rfl
  induction entries with
  | nil => rfl
  | cons entry rest ih =>
    obtain ⟨key, v⟩ := entry
    cases hname : key.isName with
    | true =>
      have hstrange : Entries.strange ((key, v) :: rest) = Entries.strange rest := by
        simp [Entries.strange, hname]
      rw [hcons, ih, hstrange]
      cases key with
      | text name => cases checkEntries Schema.any.check (Entries.strange rest) <;> rfl
      | _ => cases hname
    | false =>
      have hstrange : Entries.strange ((key, v) :: rest) = (key, v) :: Entries.strange rest := by
        simp [Entries.strange, hname]
      rw [hcons, ih, hstrange, hcons]

theorem checkEntries_match (h : entries.strange = changed.strange) (hP : ∀ p, P p p) :
    Checked.Match P (fun _ => ([] : OpaqueMap))
      ((checkEntries Schema.any.check entries).map named)
      ((checkEntries Schema.any.check changed).map named) := by
  have hsame : (checkEntries Schema.any.check entries).map (fun _ => ()) =
      (checkEntries Schema.any.check changed).map fun _ => () :=
    checkEntries_strange.trans (h ▸ checkEntries_strange.symm)
  have hmatch : Checked.Match P (fun _ => ()) (checkEntries Schema.any.check entries)
      (checkEntries Schema.any.check changed) := .of_same hsame fun _ _ p _ => hP p
  exact hmatch.map fun _ _ _ => rfl

theorem Fields.check_match {g : OpaqueMap → OpaqueMap} : (fs : Fields) →
    (∀ field schema, fs.Has field schema →
      Checked.Match P (field.presence.mapSlot (schema.tidy g))
        (field.check schema.check schema.empty entries)
        (field.check schema.check schema.empty changed)) →
      Checked.Match P (fs.tidy g) (fs.check entries) (fs.check changed)
  | .nil, _ => .ok rfl
  | .cons field schema rest, h =>
    (h field schema .here).both (rest.check_match fun field schema hhas => h field schema (.there hhas))

theorem Schema.Alike.ne_null {s : Schema} (h : s.Alike l v w) :
    v = w ∨ v ≠ .null ∧ w ≠ .null := by
  cases s with
  | list item =>
    rcases alike_list.mp h with rfl | ⟨_, _, rfl, rfl, -⟩
    · exact .inl rfl
    · exact .inr ⟨nofun, nofun⟩
  | record name fields =>
    rcases alike_record.mp h with rfl | ⟨_, _, rfl, rfl, -⟩
    · exact .inl rfl
    · exact .inr ⟨nofun, nofun⟩
  | dict item =>
    rcases alike_dict.mp h with rfl | ⟨-, _, _, rfl, rfl, -⟩
    · exact .inl rfl
    · exact .inr ⟨nofun, nofun⟩
  | _ => exact .inl (by simpa [Alike] using h)

theorem Field.Alike.check (hhas : fields.Has field schema)
    (hvalues : ∀ v w, schema.Alike l v w → Checked.Match (Problem.Corresponds l schema v w)
      (schema.tidy l.keep) (schema.check v) (schema.check w))
    (h : field.Alike l (schema.Alike l) entries changed) :
    Checked.Match (Problem.Corresponds l (.record name fields) (.mapping entries) (.mapping changed))
      (field.presence.mapSlot (schema.tidy l.keep))
      (field.check schema.check schema.empty entries)
      (field.check schema.check schema.empty changed) := by
  cases h with
  | absent hnone hnone' =>
    simp only [Field.check, hnone, hnone']
    cases field.presence with
    | required => exact .error (.cons ⟨rfl, .absent hhas hnone hnone'⟩ .nil)
    | optional | collapsing | preset => exact .ok rfl
  | @given spelling spelling' v w hgiven hgiven' hspelling hvalue =>
    simp only [Field.check, hgiven, hgiven']
    have hread : Checked.Match (Problem.Corresponds l schema v w)
        (field.presence.mapSlot (schema.tidy l.keep))
        (field.presence.readGiven schema.check schema.empty v)
        (field.presence.readGiven schema.check schema.empty w) := by
      rcases hvalue.ne_null with rfl | ⟨hv, hw⟩
      · exact .refl (fun p => ⟨rfl, .same⟩) _
      · exact Presence.readGiven_match hv hw (hvalues v w hvalue)
    exact hread.within fun p q hproblem =>
      ⟨hproblem.1, .given hhas hgiven hgiven' hspelling hproblem.2⟩

mutual
/-- A check takes values that are alike the same way, or finds the same problems in
both. -/
theorem Schema.Alike.check : (s : Schema) → {v w : Value} → s.Alike l v w →
    Checked.Match (Problem.Corresponds l s v w) (s.tidy l.keep) (s.check v) (s.check w)
  | .list item, v, w, h => by
    rcases Schema.alike_list.mp h with rfl | ⟨items, changed, rfl, rfl, hitems⟩
    · exact .refl (fun p => ⟨rfl, .same⟩) _
    · refine Checked.Match.itemsFrom hitems.length_eq fun k v w hv hw => ?_
      have hvalue : item.Alike l v w := by
        obtain ⟨hk, rfl⟩ := List.getElem?_eq_some_iff.mp hv
        obtain ⟨hk', rfl⟩ := List.getElem?_eq_some_iff.mp hw
        exact hitems.get hk hk'
      refine (Schema.Alike.check item hvalue).within fun p q hproblem => ⟨hproblem.1, ?_⟩
      rw [Nat.zero_add]
      exact .item hv hw hproblem.2
  | .record name fields, v, w, h => by
    rcases Schema.alike_record.mp h with rfl | ⟨entries, changed, rfl, rfl, hstrange, hfields⟩
    · exact .refl (fun p => ⟨rfl, .same⟩) _
    · have hdeclared : Checked.Match
          (Problem.Corresponds l (.record name fields) (.mapping entries) (.mapping changed))
          (fields.tidy l.keep) (fields.check entries) (fields.check changed) :=
        fields.check_match fun field schema hhas => Fields.Alike.check fields hfields hhas hhas
      exact hdeclared.both (checkExtras_match hstrange fun key cause => ⟨rfl, .strange⟩)
  | .dict item, v, w, h => by
    rcases Schema.alike_dict.mp h with rfl | ⟨⟨hcontents, rfl⟩, entries, changed, rfl, rfl, hstrange⟩
    · exact .refl (fun p => ⟨rfl, .same⟩) _
    · have hkeep : (Schema.dict .any).tidy l.keep = fun _ => [] := by
        funext entries
        simp [Schema.tidy, Latitude.keep, hcontents]
      rw [hkeep]
      exact checkEntries_match hstrange fun p => ⟨rfl, .key⟩
  | .bool, v, w, h | .int, v, w, h | .text, v, w, h | .quantity, v, w, h | .label, v, w, h
  | .any, v, w, h => by
    obtain rfl : v = w := by simpa only [Schema.Alike] using h
    exact .refl (fun p => ⟨rfl, .same⟩) _
theorem Fields.Alike.check : (fs : Fields) → {entries changed : Entries} →
    fs.Alike l entries changed → {field : Field} → {schema : Schema} → fs.Has field schema →
      {name : String} → {fields : Fields} → fields.Has field schema →
        Checked.Match
          (Problem.Corresponds l (.record name fields) (.mapping entries) (.mapping changed))
          (field.presence.mapSlot (schema.tidy l.keep))
          (field.check schema.check schema.empty entries)
          (field.check schema.check schema.empty changed)
  | .nil, _, _, _, _, _, hhas, _, _, _ => nomatch hhas
  | .cons field schema rest, entries, changed, h, _, _, hhas, _, _, hwhole => by
    rw [Fields.Alike] at h
    cases hhas with
    | here => exact h.1.check hwhole fun v w hvalue => Schema.Alike.check schema hvalue
    | there hhas => exact Fields.Alike.check rest h.2 hhas hwhole
end

end

end PodPolicy
