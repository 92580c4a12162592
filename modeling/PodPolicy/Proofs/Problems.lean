import PodPolicy.Proofs.Pruning

/-!
# What ails a value

A value ails at a path from its root where it is refused there: a scalar that cannot be
read, a value of another kind, a field that has to be given and is not, a key that is no
text. `Schema.check_findsAll`: a check finds a problem at each path where the value ails,
and no other, however many there are. `Fields.parts`: the problems of a record are those
of its fields, one after the other.
-/

namespace PodPolicy

-- -----------------------------------------------------------------------------
-- Places that ail
-- -----------------------------------------------------------------------------

def Value.items? : Value → Option (List Value)
  | .list items | .tuple items | .set items => some items
  | _ => none

/-- The value is refused for the cause at the end of the path. -/
inductive Schema.Ails : Schema → Value → List Step → Cause → Prop
  | bool {v : Value} {cause : Cause} (h : Scalar.readBool v = .error cause) :
      Ails .bool v [] cause
  | int {v : Value} {cause : Cause} (h : Scalar.readInt v = .error cause) :
      Ails .int v [] cause
  | text {v : Value} {cause : Cause} (h : Scalar.readText v = .error cause) :
      Ails .text v [] cause
  | quantity {v : Value} {cause : Cause} (h : Scalar.readQuantity v = .error cause) :
      Ails .quantity v [] cause
  | label {v : Value} {cause : Cause} (h : Scalar.readLabel v = .error cause) :
      Ails .label v [] cause
  | notList {item : Schema} {v : Value} (h : v.items? = none) : Ails (.list item) v [] .notList
  | item {item : Schema} {v w : Value} {items : List Value} {i : Nat} {path : List Step}
      {cause : Cause} (hitems : v.items? = some items) (hat : items[i]? = some w)
      (h : Ails item w path cause) : Ails (.list item) v (.index i :: path) cause
  | notMapping {item : Schema} {v : Value} (h : ∀ entries, v ≠ .mapping entries) :
      Ails (.dict item) v [] .notMapping
  | key {item : Schema} {entries : Entries} {key v : Value} {cause : Cause}
      (hat : (key, v) ∈ entries) (h : Scalar.readText key = .error cause) :
      Ails (.dict item) (.mapping entries) [.ofKey key, .keyMark] cause
  | entry {item : Schema} {entries : Entries} {key v : Value} {path : List Step} {cause : Cause}
      (hat : (key, v) ∈ entries) (h : Ails item v path cause) :
      Ails (.dict item) (.mapping entries) (.ofKey key :: path) cause
  | notRecord {name : String} {fields : Fields} {v : Value} (h : ∀ entries, v ≠ .mapping entries) :
      Ails (.record name fields) v [] (.notRecord name)
  | missing {name : String} {fields : Fields} {field : Field} {schema : Schema} {entries : Entries}
      (hfield : fields.Has field schema) (hrequired : field.presence = .required)
      (h : field.given? entries = none) :
      Ails (.record name fields) (.mapping entries) [.name field.key] .missing
  | given {name : String} {fields : Fields} {field : Field} {schema : Schema} {entries : Entries}
      {spelling : String} {v : Value} {path : List Step} {cause : Cause}
      (hfield : fields.Has field schema) (hgiven : field.given? entries = some (spelling, v))
      (hnull : v = .null → field.presence.allowsNull = false) (h : Ails schema v path cause) :
      Ails (.record name fields) (.mapping entries) (.name spelling :: path) cause
  | strange {name : String} {fields : Fields} {entries : Entries} {key v : Value}
      (hat : (key, v) ∈ entries) (h : key.isName = false) :
      Ails (.record name fields) (.mapping entries) [.key key] .keyNotText

-- -----------------------------------------------------------------------------
-- The problems of a check
-- -----------------------------------------------------------------------------

def Checked.Tells {α : Type} (c : Checked α) : Prop :=
  c ≠ .error []

def Fields.parts (entries : Entries) : Fields → List (Field × List Problem)
  | .nil => []
  | .cons field schema rest =>
    (field, (field.check schema.check schema.empty entries).problems) :: rest.parts entries

section
variable {α β : Type} {c : Checked α} {d : Checked β} {check : Value → Checked α} {empty v : Value}
  {entries : Entries} {path : List Step} {cause : Cause} {step : Step}

namespace Checked

theorem problems_map {f : α → β} : problems (c.map f) = c.problems := by
  cases c <;> rfl

theorem mem_within : ⟨path, cause⟩ ∈ (c.within step).problems ↔
    ∃ rest, path = step :: rest ∧ ⟨rest, cause⟩ ∈ c.problems := by
  rw [problems_within, List.mem_map]
  constructor
  · rintro ⟨⟨rest, _⟩, hmem, ⟨⟩⟩
    exact ⟨rest, rfl, hmem⟩
  · rintro ⟨rest, rfl, hmem⟩
    exact ⟨_, hmem, rfl⟩

theorem mem_ofExcept {read : Except Cause α} : ⟨path, cause⟩ ∈ (ofExcept read).problems ↔
    path = [] ∧ read = .error cause := by
  cases read <;> simp [ofExcept, refuse, problems, eq_comm]

theorem mem_scalar {read : Except Cause α} {Ails : List Step → Cause → Prop}
    (hfails : ∀ cause, read = .error cause → Ails [] cause)
    (hails : ∀ path cause, Ails path cause → path = [] ∧ read = .error cause) :
    ⟨path, cause⟩ ∈ (ofExcept read).problems ↔ Ails path cause := by
  rw [mem_ofExcept]
  constructor
  · rintro ⟨rfl, hread⟩
    exact hfails cause hread
  · exact hails path cause

theorem mem_refuse {other : Cause} : ⟨path, cause⟩ ∈ (refuse other : Checked α).problems ↔
    path = [] ∧ cause = other := by
  simp [refuse, problems]

theorem problems_itemsFrom {i : Nat} {values : List Value} :
    (itemsFrom check i values).problems =
      (values.zipIdx i).flatMap fun item =>
        (check item.1).problems.map (.within (.index item.2)) := by
  induction values generalizing i with
  | nil => rfl
  | cons v rest ih =>
    rw [itemsFrom, problems_map, problems_both, problems_within, ih, List.zipIdx_cons,
      List.flatMap_cons]

theorem mem_items {values : List Value} : ⟨path, cause⟩ ∈ (items check values).problems ↔
    ∃ i w rest, values[i]? = some w ∧ path = .index i :: rest ∧
      ⟨rest, cause⟩ ∈ (check w).problems := by
  rw [items, problems_itemsFrom, List.mem_flatMap]
  constructor
  · rintro ⟨⟨w, i⟩, hat, hmem⟩
    rw [← problems_within, mem_within] at hmem
    obtain ⟨rest, rfl, hmem⟩ := hmem
    exact ⟨i, w, rest, List.mem_zipIdx_iff_getElem?.mp hat, rfl, hmem⟩
  · rintro ⟨i, w, rest, hat, rfl, hmem⟩
    refine ⟨(w, i), List.mem_zipIdx_iff_getElem?.mpr hat, ?_⟩
    rw [← problems_within, mem_within]
    exact ⟨rest, rfl, hmem⟩

end Checked

theorem problems_checkEntries : (checkEntries check entries).problems =
    entries.flatMap fun entry =>
      (((Checked.ofExcept (Scalar.readText entry.1)).within .keyMark).within
        (.ofKey entry.1)).problems ++ ((check entry.2).within (.ofKey entry.1)).problems := by
  induction entries with
  | nil => rfl
  | cons entry rest ih =>
    obtain ⟨key, v⟩ := entry
    rw [checkEntries, Checked.problems_map, Checked.problems_both, Checked.problems_both, ih,
      List.flatMap_cons]

theorem problems_checkExtras {taken : List String} : (checkExtras taken entries).problems =
    entries.strange.map fun entry => ⟨[.key entry.1], .keyNotText⟩ := by
  induction entries with
  | nil => rfl
  | cons entry rest ih =>
    obtain ⟨key, v⟩ := entry
    cases hname : key.isName with
    | true =>
      have hstrange : Entries.strange ((key, v) :: rest) = Entries.strange rest := by
        simp [Entries.strange, hname]
      rw [hstrange, ← ih]
      cases key with
      | text name =>
        simp only [checkExtras]
        split
        · rfl
        · exact Checked.problems_map
      | _ => cases hname
    | false =>
      have hstrange : Entries.strange ((key, v) :: rest) = (key, v) :: Entries.strange rest := by
        simp [Entries.strange, hname]
      rw [checkExtras_strange hname, Checked.problems_map, Checked.problems_both, ih, hstrange]
      rfl

theorem Fields.problems_check : (fs : Fields) →
    (fs.check entries).problems = (fs.parts entries).flatMap Prod.snd
  | .nil => rfl
  | .cons field schema rest => by
    rw [Fields.check, Checked.problems_both, rest.problems_check, parts, List.flatMap_cons]

/-- The problems of a record are those of its fields, and of keys that are no texts. -/
theorem Schema.problems_record {name : String} {fields : Fields} :
    ((record name fields).check (.mapping entries)).problems =
      (fields.parts entries).flatMap Prod.snd ++
        entries.strange.map fun entry => ⟨[.key entry.1], .keyNotText⟩ := by
  rw [Schema.check, Checked.problems_both, fields.problems_check, problems_checkExtras]

theorem Fields.mem_parts {part : Field × List Problem} : {fs : Fields} →
    (part ∈ fs.parts entries ↔ ∃ schema, fs.Has part.1 schema ∧
      part.2 = (part.1.check schema.check schema.empty entries).problems)
  | .nil => iff_of_false List.not_mem_nil (by rintro ⟨_, ⟨⟩, -⟩)
  | .cons field schema rest => by
    obtain ⟨other, problems⟩ := part
    rw [parts, List.mem_cons, Fields.mem_parts]
    constructor
    · rintro (heq | ⟨shape, hhas, hproblems⟩)
      · obtain ⟨rfl, rfl⟩ := Prod.mk.inj heq
        exact ⟨schema, .here, rfl⟩
      · exact ⟨shape, .there hhas, hproblems⟩
    · rintro ⟨shape, hhas, hproblems⟩
      cases hhas with
      | here => exact .inl (Prod.ext rfl hproblems)
      | there hhas => exact .inr ⟨shape, hhas, hproblems⟩

-- -----------------------------------------------------------------------------
-- Checks that fail
-- -----------------------------------------------------------------------------

namespace Checked.Tells

theorem ok {a : α} : Tells (.ok a) := nofun

theorem refuse {cause : Cause} : Tells (Checked.refuse cause : Checked α) := nofun

theorem ofExcept {read : Except Cause α} : Tells (Checked.ofExcept read) := by
  cases read <;> exact nofun

theorem map {f : α → β} (h : c.Tells) : Tells (c.map f) := by
  cases c with
  | ok a => exact nofun
  | error problems =>
    rintro ⟨⟩
    exact h rfl

theorem within (h : c.Tells) : (c.within step).Tells := by
  cases c with
  | ok a => exact nofun
  | error problems =>
    intro herror
    exact h (congrArg _ (List.map_eq_nil_iff.mp (Except.error.inj herror)))

theorem both (h : c.Tells) (h' : d.Tells) : (c.both d).Tells := by
  cases c with
  | ok a =>
    cases d with
    | ok b => exact nofun
    | error problems =>
      rintro ⟨⟩
      exact h' rfl
  | error problems =>
    cases d with
    | ok b =>
      rintro ⟨⟩
      exact h rfl
    | error more =>
      intro herror
      exact h (congrArg _ (List.append_eq_nil_iff.mp (Except.error.inj herror)).1)

theorem itemsFrom {i : Nat} {values : List Value} (h : ∀ v, (check v).Tells) :
    (Checked.itemsFrom check i values).Tells := by
  induction values generalizing i with
  | nil => exact ok
  | cons v rest ih => exact ((h v).within.both ih).map

theorem checkEntries (h : ∀ v, (check v).Tells) : (checkEntries check entries).Tells := by
  induction entries with
  | nil => exact ok
  | cons entry rest ih =>
    obtain ⟨key, v⟩ := entry
    exact ((ofExcept.within.within.both (h v).within).both ih).map

theorem checkExtras {taken : List String} : (checkExtras taken entries).Tells := by
  induction entries with
  | nil => exact ok
  | cons entry rest ih =>
    obtain ⟨key, v⟩ := entry
    cases hname : key.isName with
    | true =>
      cases key with
      | text name =>
        simp only [PodPolicy.checkExtras]
        split
        · exact ih
        · exact ih.map
      | _ => cases hname
    | false =>
      rw [checkExtras_strange hname]
      exact (refuse.within.both ih).map

theorem readGiven {p : Presence} (h : ∀ v, (check v).Tells) :
    (p.readGiven check empty v).Tells := by
  cases p with
  | required => exact h v
  | optional =>
    cases v with
    | null => exact ok
    | _ => exact (h _).map
  | collapsing => exact (h _).map
  | preset => exact (h v).map

theorem field {field : Field} (h : ∀ v, (check v).Tells) :
    (field.check check empty entries).Tells := by
  unfold Field.check
  split
  · exact (readGiven h).within
  · cases field.presence <;> exact nofun

end Checked.Tells

end

theorem Schema.check_list {item : Schema} {v : Value} : (Schema.list item).check v =
    v.items?.elim (.refuse .notList) (Checked.items item.check) := by
  cases v <;> simp [Schema.check, Value.items?]

theorem Schema.check_dict_other {item : Schema} {v : Value} (h : ∀ entries, v ≠ .mapping entries) :
    (Schema.dict item).check v = .refuse .notMapping := by
  cases v with
  | mapping entries => exact absurd rfl (h entries)
  | _ => rfl

theorem Schema.check_record_other {name : String} {fields : Fields} {v : Value}
    (h : ∀ entries, v ≠ .mapping entries) :
    (Schema.record name fields).check v = .refuse (.notRecord name) := by
  cases v with
  | mapping entries => exact absurd rfl (h entries)
  | _ => rfl

mutual
theorem Schema.check_tells : (s : Schema) → (v : Value) → (s.check v).Tells
  | .list item, v => by
    rw [Schema.check_list]
    cases v.items? with
    | none => exact .refuse
    | some items => exact .itemsFrom item.check_tells
  | .dict item, v => by
    cases v with
    | mapping entries =>
      rw [Schema.check]
      exact (Checked.Tells.checkEntries item.check_tells).map
    | _ => exact .refuse
  | .record name fields, v => by
    cases v with
    | mapping entries =>
      rw [Schema.check]
      exact (fields.check_tells entries).both .checkExtras
    | _ => exact .refuse
  | .any, _ => .ok
  | .bool, _ | .int, _ | .text, _ | .quantity, _ | .label, _ => .ofExcept
theorem Fields.check_tells : (fs : Fields) → (entries : Entries) → (fs.check entries).Tells
  | .nil, _ => .ok
  | .cons field schema rest, entries => by
    rw [Fields.check]
    exact (Checked.Tells.field schema.check_tells).both (rest.check_tells entries)
end

-- -----------------------------------------------------------------------------
-- Problems and places
-- -----------------------------------------------------------------------------

mutual
/-- Where null stands for an empty value, that value has the shape of the field. -/
def Schema.takesNull : Schema → Bool
  | .list item => item.takesNull
  | .dict item => item.takesNull
  | .record _ fields => fields.takesNull
  | _ => true
def Fields.takesNull : Fields → Bool
  | .nil => true
  | .cons field schema rest =>
    (field.presence != .collapsing || (schema.check schema.empty).isOk) && schema.takesNull &&
      rest.takesNull
end

theorem Declared.pod_takesNull : Declared.pod.takesNull = true := by
  decide

theorem Fields.takesNull_cons {field : Field} {schema : Schema} {rest : Fields} :
    (cons field schema rest).takesNull = true ↔
      (field.presence = .collapsing → ∃ form, schema.check schema.empty = .ok form) ∧
        schema.takesNull = true ∧ rest.takesNull = true := by
  simp only [takesNull, Bool.and_eq_true, field.emptyStands_iff, and_assoc]

section
variable {α : Type} {check : Value → Checked α} {empty v : Value} {field : Field} {schema : Schema}
  {entries : Entries} {path : List Step} {cause : Cause} {spelling : String}

theorem Presence.problems_null {p : Presence} (hallows : p.allowsNull = true)
    (hempty : p = .collapsing → ∃ a, check empty = .ok a) :
    (p.readGiven check empty .null).problems = [] := by
  cases p with
  | required => cases hallows
  | preset => cases hallows
  | optional => rfl
  | collapsing =>
    obtain ⟨a, ha⟩ := hempty rfl
    show Checked.problems ((check empty).map some) = []
    rw [ha]
    rfl

theorem Presence.problems_given {p : Presence} (h : v = .null → p.allowsNull = false) :
    (p.readGiven check empty v).problems = (check v).problems := by
  by_cases hv : v = .null
  · subst hv
    cases p with
    | required => rfl
    | preset => exact Checked.problems_map
    | optional => cases h rfl
    | collapsing => cases h rfl
  · rw [readGiven_place hv, Checked.problems_map]

theorem Field.problems_given (hgiven : field.given? entries = some (spelling, v))
    (h : v = .null → field.presence.allowsNull = false) :
    (field.check check empty entries).problems =
      (check v).problems.map (.within (.name spelling)) := by
  rw [Field.check, hgiven]
  show (Checked.within _ _).problems = _
  rw [Checked.problems_within, Presence.problems_given h]

/-- A field ails where it is missing, and where the value that is given for it does. -/
inductive Field.Ails (field : Field) (ails : Value → List Step → Cause → Prop)
    (entries : Entries) : List Step → Cause → Prop
  | missing (hrequired : field.presence = .required) (h : field.given? entries = none) :
      Ails field ails entries [.name field.key] .missing
  | given {spelling : String} {v : Value} {path : List Step} {cause : Cause}
      (hgiven : field.given? entries = some (spelling, v))
      (hnull : v = .null → field.presence.allowsNull = false) (h : ails v path cause) :
      Ails field ails entries (.name spelling :: path) cause

theorem Field.mem_problems
    (hempty : field.presence = .collapsing → ∃ a, check empty = .ok a) :
    ⟨path, cause⟩ ∈ (field.check check empty entries).problems ↔
      field.Ails (fun v path cause => ⟨path, cause⟩ ∈ (check v).problems) entries path cause := by
  constructor
  · intro hmem
    cases hgiven : field.given? entries with
    | none =>
      rw [Field.check, hgiven] at hmem
      cases hpresence : field.presence <;> rw [hpresence] at hmem
      case required =>
        cases List.mem_singleton.mp hmem
        exact .missing hpresence hgiven
      all_goals cases hmem
    | some given =>
      obtain ⟨spelling, v⟩ := given
      by_cases hnull : v = .null → field.presence.allowsNull = false
      · rw [Field.problems_given hgiven hnull, ← Checked.problems_within,
          Checked.mem_within] at hmem
        obtain ⟨rest, rfl, hmem⟩ := hmem
        exact .given hgiven hnull hmem
      · simp only [Classical.not_imp, Bool.not_eq_false] at hnull
        obtain ⟨rfl, hallows⟩ := hnull
        have hnone : (field.check check empty entries).problems = [] := by
          rw [Field.check, hgiven]
          exact (Checked.problems_within _ _).trans
            (congrArg _ (Presence.problems_null hallows hempty))
        rw [hnone] at hmem
        cases hmem
  · rintro (⟨hrequired, hnone⟩ | ⟨hgiven, hnull, hmem⟩)
    · rw [Field.check, hnone, hrequired]
      exact List.mem_singleton_self _
    · rw [Field.problems_given hgiven hnull]
      exact List.mem_map_of_mem hmem

end

theorem Entries.mem_strange {entries : Entries} {entry : Value × Value} :
    entry ∈ entries.strange ↔ entry ∈ entries ∧ entry.1.isName = false := by
  simp [Entries.strange]

/-- A check finds a problem at each path where the value ails, and no other. -/
def Schema.FindsAll (s : Schema) : Prop :=
  ∀ v path cause, ⟨path, cause⟩ ∈ (s.check v).problems ↔ s.Ails v path cause

def Fields.FindsAll (fs : Fields) : Prop :=
  ∀ entries path cause, ⟨path, cause⟩ ∈ (fs.parts entries).flatMap Prod.snd ↔
    ∃ field schema, fs.Has field schema ∧ field.Ails schema.Ails entries path cause

section
variable {item schema : Schema} {field : Field} {fields rest : Fields} {name : String}

theorem Schema.FindsAll.list (h : item.FindsAll) : (Schema.list item).FindsAll := by
  intro v path cause
  rw [Schema.check_list]
  cases hitems : v.items? with
  | none =>
    rw [Option.elim_none, Checked.mem_refuse]
    constructor
    · rintro ⟨rfl, rfl⟩
      exact .notList hitems
    · intro hails
      cases hails with
      | notList => exact ⟨rfl, rfl⟩
      | item hitems' => cases hitems.symm.trans hitems'
  | some items =>
    rw [Option.elim_some, Checked.mem_items]
    constructor
    · rintro ⟨i, w, path, hat, rfl, hmem⟩
      exact .item hitems hat ((h _ _ _).mp hmem)
    · intro hails
      cases hails with
      | notList hnone => cases hitems.symm.trans hnone
      | item hitems' hat hails =>
        cases hitems.symm.trans hitems'
        exact ⟨_, _, _, hat, rfl, (h _ _ _).mpr hails⟩

theorem Schema.FindsAll.dict (h : item.FindsAll) : (Schema.dict item).FindsAll := by
  intro v path cause
  by_cases hmapping : ∃ entries, v = .mapping entries
  · obtain ⟨entries, rfl⟩ := hmapping
    rw [Schema.check, Checked.problems_map, problems_checkEntries]
    simp only [List.mem_flatMap, List.mem_append, Checked.mem_within, Checked.mem_ofExcept]
    constructor
    · rintro ⟨⟨key, w⟩, hat, ⟨_, rfl, _, rfl, rfl, hkey⟩ | ⟨path, rfl, hmem⟩⟩
      · exact .key hat hkey
      · exact .entry hat ((h _ _ _).mp hmem)
    · intro hails
      cases hails with
      | notMapping hnot => exact absurd rfl (hnot entries)
      | key hat hkey => exact ⟨_, hat, .inl ⟨_, rfl, _, rfl, rfl, hkey⟩⟩
      | entry hat hails => exact ⟨_, hat, .inr ⟨_, rfl, (h _ _ _).mpr hails⟩⟩
  · have hnot : ∀ entries, v ≠ .mapping entries := fun entries h => hmapping ⟨entries, h⟩
    rw [Schema.check_dict_other hnot, Checked.mem_refuse]
    constructor
    · rintro ⟨rfl, rfl⟩
      exact .notMapping hnot
    · intro hails
      cases hails with
      | notMapping _ => exact ⟨rfl, rfl⟩
      | key | entry => exact absurd rfl (hnot _)

theorem Schema.FindsAll.record (h : fields.FindsAll) : (Schema.record name fields).FindsAll := by
  intro v path cause
  by_cases hmapping : ∃ entries, v = .mapping entries
  · obtain ⟨entries, rfl⟩ := hmapping
    rw [Schema.problems_record, List.mem_append, h]
    simp only [List.mem_map, Entries.mem_strange]
    constructor
    · rintro (⟨field, schema, hhas, hfield⟩ | ⟨⟨key, w⟩, ⟨hat, hname⟩, ⟨⟩⟩)
      · cases hfield with
        | missing hrequired hnone => exact .missing hhas hrequired hnone
        | given hgiven hnull hails => exact .given hhas hgiven hnull hails
      · exact .strange hat hname
    · intro hails
      cases hails with
      | notRecord hnot => exact absurd rfl (hnot entries)
      | missing hhas hrequired hnone => exact .inl ⟨_, _, hhas, .missing hrequired hnone⟩
      | given hhas hgiven hnull hails => exact .inl ⟨_, _, hhas, .given hgiven hnull hails⟩
      | strange hat hname => exact .inr ⟨_, ⟨hat, hname⟩, rfl⟩
  · have hnot : ∀ entries, v ≠ .mapping entries := fun entries h => hmapping ⟨entries, h⟩
    rw [Schema.check_record_other hnot, Checked.mem_refuse]
    constructor
    · rintro ⟨rfl, rfl⟩
      exact .notRecord hnot
    · intro hails
      cases hails with
      | notRecord _ => exact ⟨rfl, rfl⟩
      | missing | given | strange => exact absurd rfl (hnot _)

theorem Fields.FindsAll.nil : Fields.nil.FindsAll :=
  fun _ _ _ => iff_of_false List.not_mem_nil (by rintro ⟨_, _, ⟨⟩, -⟩)

theorem Fields.FindsAll.cons
    (hempty : field.presence = .collapsing → ∃ a, schema.check schema.empty = .ok a)
    (hschema : schema.FindsAll) (hrest : rest.FindsAll) :
    (Fields.cons field schema rest).FindsAll := by
  intro entries path cause
  have hfield : ⟨path, cause⟩ ∈ (field.check schema.check schema.empty entries).problems ↔
      field.Ails schema.Ails entries path cause := by
    rw [Field.mem_problems hempty]
    simp only [hschema _ _ _]
  rw [Fields.parts, List.flatMap_cons, List.mem_append, hrest, hfield]
  constructor
  · rintro (h | ⟨other, shape, hhas, h⟩)
    · exact ⟨field, schema, .here, h⟩
    · exact ⟨other, shape, .there hhas, h⟩
  · rintro ⟨other, shape, hhas, h⟩
    cases hhas with
    | here => exact .inl h
    | there hhas => exact .inr ⟨other, shape, hhas, h⟩

end

mutual
theorem Schema.check_findsAll : (s : Schema) → s.takesNull = true → s.FindsAll
  | .list item, hnulls => .list (item.check_findsAll hnulls)
  | .dict item, hnulls => .dict (item.check_findsAll hnulls)
  | .record _ fields, hnulls => .record (fields.check_findsAll hnulls)
  | .bool, _ => by
    intro v path cause
    refine Checked.mem_scalar (fun _ => .bool) fun _ _ h => ?_
    cases h with
    | bool h => exact ⟨rfl, h⟩
  | .int, _ => by
    intro v path cause
    refine Checked.mem_scalar (fun _ => .int) fun _ _ h => ?_
    cases h with
    | int h => exact ⟨rfl, h⟩
  | .text, _ => by
    intro v path cause
    refine Checked.mem_scalar (fun _ => .text) fun _ _ h => ?_
    cases h with
    | text h => exact ⟨rfl, h⟩
  | .quantity, _ => by
    intro v path cause
    refine Checked.mem_scalar (fun _ => .quantity) fun _ _ h => ?_
    cases h with
    | quantity h => exact ⟨rfl, h⟩
  | .label, _ => by
    intro v path cause
    refine Checked.mem_scalar (fun _ => .label) fun _ _ h => ?_
    cases h with
    | label h => exact ⟨rfl, h⟩
  | .any, _ => fun _ _ _ => iff_of_false List.not_mem_nil nofun
theorem Fields.check_findsAll : (fs : Fields) → fs.takesNull = true → fs.FindsAll
  | .nil, _ => .nil
  | .cons field schema rest, hnulls => by
    obtain ⟨hempty, hschema, hrest⟩ := Fields.takesNull_cons.mp hnulls
    exact .cons hempty (schema.check_findsAll hschema) (rest.check_findsAll hrest)
end

end PodPolicy
