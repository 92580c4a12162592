import PodPolicy.Proofs.Problems

/-!
# Values in other values

A value holds others, at the end of paths through fields of records and items of lists.
`Schema.Holds.problems_putAt`: the problems of what stands at such a place stand in one
block, under its path, and what stands before and after them does not depend on it. So a
part neither hides nor adds a problem of another one.
-/

namespace PodPolicy

def Problem.under (path : List Step) (p : Problem) : Problem :=
  { p with path := path ++ p.path }

/-- A value of the outer schema holds one of the inner schema at the end of a path. -/
inductive Schema.Holds : Schema → Value → List Step → Schema → Value → Prop
  | here {s : Schema} {v : Value} : Holds s v [] s v
  | field {name : String} {fields : Fields} {field : Field} {schema inner : Schema}
      {entries : Entries} {spelling : String} {given v : Value} {path : List Step}
      (hfield : fields.Has field schema) (hgiven : field.given? entries = some (spelling, given))
      (h : Holds schema given path inner v) :
      Holds (.record name fields) (.mapping entries) (.name spelling :: path) inner v
  | item {item inner : Schema} {items : List Value} {i : Nat} {w v : Value} {path : List Step}
      (hat : items[i]? = some w) (h : Holds item w path inner v) :
      Holds (.list item) (.list items) (.index i :: path) inner v

def Value.putAt : Value → List Step → Value → Value
  | _, [], new => new
  | .mapping entries, .name name :: path, new =>
    .mapping (Entries.put entries (.text name) ((Entries.get entries name).putAt path new))
  | .list items, .index i :: path, new => .list (items.modify i fun item => item.putAt path new)
  | v, _ :: _, _ => v

section
variable {outer inner : Schema} {v w new : Value} {path : List Step}

theorem Value.putAt_nil : v.putAt [] new = new := by
  cases v <;> rfl

theorem Schema.Holds.putAt_self (h : outer.Holds v path inner w) : v.putAt path w = v := by
  induction h with
  | here => exact Value.putAt_nil
  | field hfield hgiven _ ih =>
    obtain ⟨-, hget⟩ := Field.given?_get? hgiven
    rw [Value.putAt, Entries.get_of_get? hget, ih, Entries.put_self hget]
  | item hat _ ih =>
    obtain ⟨hlt, hget⟩ := List.getElem?_eq_some_iff.mp hat
    rw [Value.putAt, List.modify_eq_take_cons_drop hlt, hget, ih, ← hget,
      ← List.drop_eq_getElem_cons hlt, List.take_append_drop]

/-- Null comes to stand in a place only where it is put. -/
theorem Schema.Holds.putAt_ne_null (h : outer.Holds v path inner w) (hnew : new ≠ .null) :
    v.putAt path new ≠ .null := by
  cases h with
  | here => rwa [Value.putAt_nil]
  | field => exact nofun
  | item => exact nofun

end

-- -----------------------------------------------------------------------------
-- Lists of problems
-- -----------------------------------------------------------------------------

def Apart (path : List Step) (problems : List Problem) : Prop :=
  ∀ p ∈ problems, ¬ path <+: p.path

section
variable {path more : List Step} {step : Step} {problems others : List Problem}

theorem map_under_nil : problems.map (Problem.under []) = problems :=
  List.map_id _

theorem map_under_cons :
    problems.map (Problem.under (step :: path)) =
      (problems.map (Problem.under path)).map (Problem.within step) := by
  rw [List.map_map]
  rfl

theorem map_under_snoc :
    problems.map (Problem.under (path ++ [step])) =
      (problems.map (Problem.within step)).map (Problem.under path) := by
  rw [List.map_map]
  refine List.map_congr_left fun p _ => ?_
  simp only [Function.comp_apply, Problem.under, Problem.within, List.append_assoc,
    List.singleton_append]

theorem Apart.nil : Apart path [] :=
  List.forall_mem_nil _

theorem apart_append : Apart path (problems ++ others) ↔ Apart path problems ∧ Apart path others :=
  List.forall_mem_append

theorem Apart.further (h : Apart path problems) : Apart (path ++ more) problems :=
  fun p hp hprefix => h p hp ((List.prefix_append path more).trans hprefix)

theorem apart_within :
    Apart (step :: path) (problems.map (Problem.within step)) ↔ Apart path problems := by
  simp only [Apart, List.forall_mem_map, Problem.within, List.cons_prefix_cons, true_and]

theorem apart_under :
    Apart (path ++ more) (problems.map (Problem.under path)) ↔ Apart more problems := by
  simp only [Apart, List.forall_mem_map, Problem.under, List.prefix_append_right_inj]

theorem Apart.of_step (h : ∀ p ∈ problems, ∃ other rest, p.path = other :: rest ∧ other ≠ step) :
    Apart (step :: path) problems := by
  intro p hp hprefix
  obtain ⟨other, rest, hpath, hother⟩ := h p hp
  rw [hpath, List.cons_prefix_cons] at hprefix
  exact hother hprefix.1.symm

end

-- -----------------------------------------------------------------------------
-- Fields and items among others
-- -----------------------------------------------------------------------------

section
variable {α : Type} {check : Value → Checked α} {empty v : Value} {field : Field} {schema : Schema}
  {fields : Fields} {entries changed : Entries} {before after values : List Value} {i : Nat}
  {p : Problem}

theorem Field.problems_path (h : p ∈ (field.check check empty entries).problems) :
    ∃ other ∈ field.names, ∃ rest, p.path = .name other :: rest := by
  unfold Field.check at h
  split at h
  · rename_i other v hgiven
    rw [Checked.problems_within, List.mem_map] at h
    obtain ⟨q, -, rfl⟩ := h
    exact ⟨other, (Field.given?_get? hgiven).1, q.path, rfl⟩
  · cases hpresence : field.presence <;> rw [hpresence] at h
    case required =>
      obtain rfl := List.mem_singleton.mp h
      exact ⟨field.key, List.mem_cons_self, [], rfl⟩
    all_goals cases h

theorem Fields.problems_path : {fs : Fields} → p ∈ (fs.check entries).problems →
    ∃ other ∈ fs.names, ∃ rest, p.path = .name other :: rest
  | .nil, h => absurd h List.not_mem_nil
  | .cons field schema rest, h => by
    rw [check, Checked.problems_both, List.mem_append] at h
    rcases h with h | h
    · obtain ⟨other, hother, hpath⟩ := Field.problems_path h
      exact ⟨other, List.mem_append_left _ hother, hpath⟩
    · obtain ⟨other, hother, hpath⟩ := rest.problems_path h
      exact ⟨other, List.mem_append_right _ hother, hpath⟩

theorem Field.check_congr (h : ∀ name ∈ field.names, changed.get? name = entries.get? name) :
    field.check check empty changed = field.check check empty entries := by
  simp only [Field.check, Field.given?_congr h]

theorem Fields.check_congr : {fs : Fields} →
    (∀ name ∈ fs.names, changed.get? name = entries.get? name) →
      fs.check changed = fs.check entries
  | .nil, _ => rfl
  | .cons field schema rest, h => by
    rw [check, check, Field.check_congr fun name hname => h name (List.mem_append_left _ hname),
      rest.check_congr fun name hname => h name (List.mem_append_right _ hname)]

/-- However a field of a record changes, the problems of the others stand before and
after its own. -/
theorem Fields.Has.problems_split (h : fields.Has field schema)
    (htolerant : fields.isTolerant = true) (entries : Entries) :
    ∃ before after : List Problem,
      (∀ p ∈ before ++ after, ∃ other rest, p.path = .name other :: rest ∧
        other ∉ field.names) ∧
      ∀ changed : Entries, (∀ name ∉ field.names, changed.get? name = entries.get? name) →
        (fields.check changed).problems =
          before ++ (field.check schema.check schema.empty changed).problems ++ after := by
  induction h with
  | @here rest =>
    obtain ⟨hnames, -⟩ := Fields.isTolerant_cons.mp htolerant
    refine ⟨[], (rest.check entries).problems, fun p hp => ?_, fun changed hchanged => ?_⟩
    · obtain ⟨other, hother, path, hpath⟩ := Fields.problems_path hp
      exact ⟨other, path, hpath, fun hfield => hnames other hfield hother⟩
    · rw [Fields.check, Checked.problems_both, List.nil_append, Fields.check_congr
        fun name hname => hchanged name fun hfield => hnames name hfield hname]
  | @there first shape rest hhas ih =>
    obtain ⟨hnames, -, -, hrest⟩ := Fields.isTolerant_cons.mp htolerant
    have hfirst : ∀ name ∈ first.names, name ∉ field.names := fun name hname hfield =>
      hnames name hname (hhas.names hfield)
    obtain ⟨before, after, hpaths, hproblems⟩ := ih hrest
    refine ⟨(first.check shape.check shape.empty entries).problems ++ before, after, ?_,
      fun changed hchanged => ?_⟩
    · rw [List.append_assoc]
      refine List.forall_mem_append.mpr ⟨fun p hp => ?_, hpaths⟩
      obtain ⟨other, hother, path, hpath⟩ := Field.problems_path hp
      exact ⟨other, path, hpath, hfirst other hother⟩
    · rw [Fields.check, Checked.problems_both, hproblems changed hchanged, Field.check_congr
        fun name hname => hchanged name (hfirst name hname)]
      simp only [List.append_assoc]

theorem Checked.itemsFrom_path (h : p ∈ (itemsFrom check i values).problems) :
    ∃ j rest, p.path = .index j :: rest ∧ i ≤ j ∧ j < i + values.length := by
  rw [problems_itemsFrom, List.mem_flatMap] at h
  obtain ⟨⟨w, j⟩, hat, hp⟩ := h
  obtain ⟨q, -, rfl⟩ := List.mem_map.mp hp
  obtain ⟨hle, hlt, -⟩ := List.mem_zipIdx hat
  exact ⟨j, q.path, rfl, hle, hlt⟩

theorem Checked.problems_items (check : Value → Checked α) (hlt : i < values.length) :
    ∃ before after : List Problem, Apart [.index i] before ∧ Apart [.index i] after ∧
      ∀ change : Value → Value, (items check (values.modify i change)).problems =
        before ++ (check (change values[i])).problems.map (Problem.within (.index i)) ++ after := by
  have hlength : (values.take i).length = i := List.length_take_of_le (Nat.le_of_lt hlt)
  refine ⟨(itemsFrom check 0 (values.take i)).problems,
    (itemsFrom check (i + 1) (values.drop (i + 1))).problems, ?_, ?_, fun change => ?_⟩
  · refine .of_step fun p hp => ?_
    obtain ⟨j, rest, hpath, -, hj⟩ := itemsFrom_path hp
    exact ⟨.index j, rest, hpath, by rintro ⟨⟩; omega⟩
  · refine .of_step fun p hp => ?_
    obtain ⟨j, rest, hpath, hj, -⟩ := itemsFrom_path hp
    exact ⟨.index j, rest, hpath, by rintro ⟨⟩; omega⟩
  · simp only [items, problems_itemsFrom, List.modify_eq_take_cons_drop hlt, List.zipIdx_append,
      List.zipIdx_cons, List.flatMap_append, List.flatMap_cons, hlength, Nat.zero_add,
      List.append_assoc]

end

-- -----------------------------------------------------------------------------
-- The problems around a place
-- -----------------------------------------------------------------------------

/-- The problems of what stands at a place stand in one block, and nothing around them
depends on it. -/
theorem Schema.Holds.problems_putAt {outer inner : Schema} {v w : Value} {path : List Step}
    (h : outer.Holds v path inner w) (htolerant : outer.isTolerant = true) :
    ∃ before after : List Problem, Apart path before ∧ Apart path after ∧
      ∀ new, new ≠ .null → (outer.check (v.putAt path new)).problems =
        before ++ (inner.check new).problems.map (Problem.under path) ++ after := by
  induction h with
  | here =>
    refine ⟨[], [], .nil, .nil, fun new _ => ?_⟩
    rw [Value.putAt_nil, map_under_nil, List.nil_append, List.append_nil]
  | @field name fields field schema inner entries spelling given v path hfield hgiven hholds ih =>
    obtain ⟨hschema, -⟩ := hfield.tolerant htolerant
    obtain ⟨hspelling, hget⟩ := Field.given?_get? hgiven
    obtain ⟨before, after, hbefore, hafter, hinner⟩ := ih hschema
    obtain ⟨first, last, hpaths, hfields⟩ := hfield.problems_split htolerant entries
    have hothers : Apart (.name spelling :: path) (first ++ last) := .of_step fun p hp => by
      obtain ⟨other, rest, hpath, hother⟩ := hpaths p hp
      exact ⟨.name other, rest, hpath, by rintro ⟨⟩; exact hother hspelling⟩
    obtain ⟨hfirst, hlast⟩ := apart_append.mp hothers
    have hstrange : Apart (.name spelling :: path)
        (entries.strange.map fun entry => Problem.mk [.key entry.1] .keyNotText) := by
      refine .of_step fun p hp => ?_
      obtain ⟨entry, -, rfl⟩ := List.mem_map.mp hp
      exact ⟨_, [], rfl, nofun⟩
    refine ⟨first ++ before.map (Problem.within (.name spelling)),
      after.map (Problem.within (.name spelling)) ++ last ++
        entries.strange.map fun entry => Problem.mk [.key entry.1] .keyNotText,
      apart_append.mpr ⟨hfirst, apart_within.mpr hbefore⟩,
      apart_append.mpr ⟨apart_append.mpr ⟨apart_within.mpr hafter, hlast⟩, hstrange⟩,
      fun new hnew => ?_⟩
    have hput : (field.check schema.check schema.empty
          (entries.put (.text spelling) (given.putAt path new))).problems =
        (schema.check (given.putAt path new)).problems.map (Problem.within (.name spelling)) :=
      Field.problems_given (Field.given?_put hgiven) fun hnull =>
        absurd hnull (hholds.putAt_ne_null hnew)
    have hsame : ∀ other ∉ field.names,
        (entries.put (.text spelling) (given.putAt path new)).get? other = entries.get? other :=
      fun other hother => Entries.get?_put_other (by rintro rfl; exact hother hspelling)
    rw [Value.putAt, Entries.get_of_get? hget, Schema.check, Checked.problems_both,
      problems_checkExtras, Entries.strange_put, hfields _ hsame, hput, hinner new hnew,
      map_under_cons]
    simp only [List.map_append, List.append_assoc]
  | @item item inner items i w v path hat _ ih =>
    obtain ⟨hlt, hget⟩ := List.getElem?_eq_some_iff.mp hat
    obtain ⟨before, after, hbefore, hafter, hinner⟩ := ih htolerant
    obtain ⟨first, last, hfirst, hlast, hitems⟩ := Checked.problems_items item.check hlt
    refine ⟨first ++ before.map (Problem.within (.index i)),
      after.map (Problem.within (.index i)) ++ last,
      apart_append.mpr ⟨hfirst.further, apart_within.mpr hbefore⟩,
      apart_append.mpr ⟨apart_within.mpr hafter, hlast.further⟩, fun new hnew => ?_⟩
    rw [Value.putAt, Schema.check, hitems, hget, hinner new hnew, map_under_cons]
    simp only [List.map_append, List.append_assoc]

end PodPolicy
