import PodPolicy.Proofs.Evaluation
import PodPolicy.Proofs.PodShape

/-!
# The normal form of a manifest

A manifest that is read and written back is in a normal form: values as the
declarations have them, each field under its key, beside them the entries that
no field took. `readDocument_write`: the normal form is read as the same
document, and a pod is judged alike in either form.
-/

namespace PodPolicy

-- -----------------------------------------------------------------------------
-- Regular schemas
-- -----------------------------------------------------------------------------

def Field.isApart (field other : Field) : Bool :=
  field.key != other.key && field.key != other.spelling && field.spelling != other.key

def Fields.declared : Fields → List Field
  | .nil => []
  | .cons field _ rest => field :: rest.declared

def Schema.isAny : Schema → Bool
  | .any => true
  | _ => false

mutual
/-- No two fields of a record share a name, and no field has null for a value. -/
def Schema.isRegular : Schema → Bool
  | .list item => item.isRegular
  | .dict item => item.isRegular
  | .record _ fields => fields.isRegular
  | _ => true
def Fields.isRegular : Fields → Bool
  | .nil => true
  | .cons field schema rest =>
    rest.declared.all field.isApart && !schema.isAny && schema.isRegular && rest.isRegular
end

theorem Declared.pod_isRegular : Declared.pod.isRegular = true := by
  decide

theorem Schema.write_ne_null {s : Schema} {form : s.Form} {defaults : Bool}
    (h : s.isAny = false) : s.write defaults form ≠ .null := by
  cases s with
  | any => cases h
  | _ => simp [Schema.write, Value.record]

-- -----------------------------------------------------------------------------
-- Fields and entries
-- -----------------------------------------------------------------------------

/-- The value that is written for a field, if it was given. -/
def Presence.given (schema : Schema) (p : Presence) (slot : p.Slot schema.Form) : Option Value :=
  p.write (schema.write false) none slot

namespace Fields

/-- Each field stands under its key if it was given, and under none of its
spellings if it was not. -/
def Spelled (entries : Entries) : (fs : Fields) → fs.Form → Prop
  | .nil, _ => True
  | .cons field schema rest, form =>
    field.given? entries = (field.presence.given schema form.1).map (field.key, ·) ∧
      rest.Spelled entries form.2

def Leaves (name : String) : (fs : Fields) → fs.Form → Prop
  | .nil, _ => True
  | .cons field schema rest, form =>
    name ≠ field.key ∧
      (field.presence.given schema form.1 = none → name ≠ field.spelling) ∧
      rest.Leaves name form.2

end Fields

mutual
/-- A value that reads as it is written: no name in it stands for two entries. -/
def Schema.Normal : (s : Schema) → s.Form → Prop
  | .list item, items => ∀ a ∈ items, item.Normal a
  | .dict item, entries =>
    (entries.map Prod.fst).Nodup ∧ ∀ entry ∈ entries, item.Normal entry.2
  | .record _ fields, form =>
    fields.Normal form.1 ∧ ∀ extra ∈ form.2, fields.Leaves extra.1 form.1
  | .bool, _ => True
  | .int, _ => True
  | .text, _ => True
  | .quantity, _ => True
  | .label, _ => True
  | .any, _ => True
def Fields.Normal : (fs : Fields) → fs.Form → Prop
  | .nil, _ => True
  | .cons field schema rest, form =>
    field.presence.SlotAll schema.Normal form.1 ∧ rest.Normal form.2
end

section
variable {α : Type} {check : Value → Checked α} {write : α → Value} {empty v : Value}
  {entries : Entries} {field : Field} {name : String}

theorem Presence.SlotAll.imp {P Q : α → Prop} {p : Presence} {slot : p.Slot α}
    (h : p.SlotAll P slot) (himp : ∀ a, P a → Q a) : p.SlotAll Q slot := by
  cases p with
  | required => exact himp _ h
  | optional => exact fun a ha => himp a (h a ha)
  | collapsing => exact fun a ha => himp a (h a ha)
  | preset => exact fun a ha => himp a (h a ha)

theorem Presence.write_readGiven {p : Presence} {slot : p.Slot α}
    (h : p.readGiven check empty v = .ok slot) : p.write write none slot ≠ none := by
  cases p with
  | required => exact nofun
  | optional =>
    cases v
    case null =>
      cases h
      exact nofun
    all_goals
      obtain ⟨a, -, rfl⟩ := map_ok.mp h
      exact nofun
  | collapsing =>
    obtain ⟨a, -, rfl⟩ := map_ok.mp h
    exact nofun
  | preset =>
    obtain ⟨a, -, rfl⟩ := map_ok.mp h
    exact nofun

theorem Presence.readGiven_write {p : Presence} {slot : p.Slot α} (hnull : ∀ a, write a ≠ .null)
    (hcheck : p.SlotAll (fun a => check (write a) = .ok a) slot)
    (h : p.write write none slot = some v) : p.readGiven check empty v = .ok slot := by
  have hmap {a : α} {f : α → p.Slot α} (ha : check (write a) = .ok a) :
      (check (write a)).map f = .ok (f a) := map_ok.mpr ⟨a, ha, rfl⟩
  cases p with
  | required =>
    cases h
    exact hcheck
  | optional =>
    rcases slot with _ | _ | a
    · cases h
    · cases h
      rfl
    · cases h
      have hread := hmap (f := fun a => some (some a)) (hcheck a rfl)
      cases hw : write a with
      | null => exact absurd hw (hnull a)
      | _ => rwa [hw] at hread
  | collapsing =>
    rcases slot with _ | a
    · cases h
    · cases h
      have hcollapse : (write a).collapse empty = write a := by
        cases hw : write a with
        | null => exact absurd hw (hnull a)
        | _ => rfl
      rw [readGiven, hcollapse]
      exact hmap (hcheck a rfl)
  | preset =>
    rcases slot with _ | a
    · cases h
    · cases h
      exact hmap (hcheck a rfl)

theorem Presence.readAbsent_write {p : Presence} {slot : p.Slot α} {key : String}
    (h : p.write write none slot = none) : p.readAbsent key = .ok slot := by
  cases p with
  | required => cases h
  | optional =>
    match slot, h with
    | none, _ => rfl
  | collapsing =>
    match slot, h with
    | none, _ => rfl
  | preset =>
    match slot, h with
    | none, _ => rfl

theorem Field.get?_given {key : String} {p : Presence} {given : Option Value}
    (h : (Field.mk key key p).given? entries = given.map (key, ·)) : entries.get? key = given := by
  rw [Field.given?_single] at h
  exact Option.map_injective (fun _ _ heq => (Prod.mk.inj heq).2) h

theorem Field.check_spelled {slot : field.presence.Slot α} (hnull : ∀ a, write a ≠ .null)
    (hcheck : field.presence.SlotAll (fun a => check (write a) = .ok a) slot)
    (h : field.given? entries = (field.presence.write write none slot).map (field.key, ·)) :
    field.check check empty entries = .ok slot := by
  rw [Field.check, h]
  cases hwrite : field.presence.write write none slot with
  | none => exact Presence.readAbsent_write hwrite
  | some v => exact Checked.within_ok.mpr (Presence.readGiven_write hnull hcheck hwrite)

theorem Field.leaves {slot : field.presence.Slot α}
    (h : field.check check empty entries = .ok slot) (hthere : entries.get? name ≠ none)
    (hleft : name ∉ ((field.given? entries).map (·.1)).toList) :
    name ≠ field.key ∧
      (field.presence.write write none slot = none → name ≠ field.spelling) := by
  unfold Field.check at h
  unfold Field.given? at h hleft
  cases hkey : entries.get? field.key with
  | some v =>
    simp only [hkey, Option.map_some, Option.toList_some, List.mem_singleton] at h hleft
    exact ⟨hleft, fun hnone =>
      absurd hnone (Presence.write_readGiven (Checked.within_ok.mp h))⟩
  | none =>
    refine ⟨?key, fun _ => ?spelling⟩
    case key =>
      rintro rfl
      exact hthere hkey
    case spelling =>
      rintro rfl
      cases hspelling : entries.get? field.spelling with
      | some v => simp [hkey, hspelling] at hleft
      | none => exact hthere hspelling

theorem checkExtras_left {taken : List String} {extras : List (String × Value)}
    {extra : String × Value} (h : checkExtras taken entries = .ok extras)
    (hextra : extra ∈ extras) : (.text extra.1, extra.2) ∈ entries ∧ extra.1 ∉ taken := by
  induction entries generalizing extras with
  | nil =>
    cases h
    simp at hextra
  | cons entry rest ih =>
    obtain ⟨key, v⟩ := entry
    cases key with
    | text name =>
      simp only [checkExtras] at h
      split at h
      · exact (ih h hextra).imp_left (List.mem_cons_of_mem _)
      · rename_i hfree
        obtain ⟨more, hmore, rfl⟩ := map_ok.mp h
        rcases List.mem_cons.mp hextra with rfl | hextra
        · exact ⟨List.mem_cons_self, fun hmem => hfree (List.contains_iff_mem.mpr hmem)⟩
        · exact (ih hmore hextra).imp_left (List.mem_cons_of_mem _)
    | _ => simp [checkExtras, Checked.refuse, Checked.within, map_ok, Checked.both_ok] at h

theorem Fields.check_leaves : (fs : Fields) → ∀ (form : fs.Form), fs.check entries = .ok form →
    entries.get? name ≠ none → name ∉ fs.taken entries → fs.Leaves name form
  | .nil, _, _, _, _ => trivial
  | .cons field schema rest, form, h, hthere, hleft => by
    obtain ⟨hfield, hrest⟩ := Fields.check_cons.mp h
    rw [Fields.taken, List.mem_append, not_or] at hleft
    obtain ⟨hkey, hspelling⟩ := Field.leaves hfield hthere hleft.1
    exact ⟨hkey, hspelling, rest.check_leaves form.2 hrest hthere hleft.2⟩

end

mutual
theorem Schema.check_normal : (s : Schema) → ∀ (v : Value) (form : s.Form),
    s.check v = .ok form → s.Normal form
  | .list item, v, items, h => by
    intro a ha
    simp only [Schema.check] at h
    split at h
    case h_4 => cases h
    all_goals
      obtain ⟨w, -, hcheck⟩ := Checked.itemsFrom_mem h ha
      exact item.check_normal w a hcheck
  | .dict item, v, entries, h => by
    simp only [Schema.check] at h
    split at h
    · obtain ⟨made, hmade, rfl⟩ := map_ok.mp h
      refine ⟨named_nodup, fun entry hentry => ?_⟩
      obtain ⟨given, -, hcheck⟩ := checkEntries_mem hmade (named_mem hentry)
      exact item.check_normal given.2 entry.2 hcheck
    · cases h
  | .record _ fields, v, form, h => by
    simp only [Schema.check] at h
    split at h
    · obtain ⟨hfields, hextras⟩ := Checked.both_ok.mp h
      refine ⟨fields.check_normal _ form.1 hfields, fun extra hextra => ?_⟩
      obtain ⟨hmem, hleft⟩ := checkExtras_left hextras hextra
      exact fields.check_leaves form.1 hfields (Entries.get?_of_mem hmem) hleft
    · cases h
  | .bool, _, _, _ => trivial
  | .int, _, _, _ => trivial
  | .text, _, _, _ => trivial
  | .quantity, _, _, _ => trivial
  | .label, _, _, _ => trivial
  | .any, _, _, _ => trivial
theorem Fields.check_normal : (fs : Fields) → ∀ (entries : Entries) (form : fs.Form),
    fs.check entries = .ok form → fs.Normal form
  | .nil, _, _, _ => trivial
  | .cons field schema rest, entries, form, h => by
    obtain ⟨hfield, hrest⟩ := Fields.check_cons.mp h
    exact ⟨Field.check_all (Q := fun _ => True) (fun v a _ => schema.check_normal v a) trivial
      (fun _ _ _ => trivial) hfield, rest.check_normal entries form.2 hrest⟩
end

-- -----------------------------------------------------------------------------
-- Reading what is written
-- -----------------------------------------------------------------------------

section
variable {α : Type} {check : Value → Checked α} {write : α → Value} {entries : Entries}
  {fields : List (String × Value)} {name : String}

theorem Checked.itemsFrom_write {items : List α} (h : ∀ a ∈ items, check (write a) = .ok a)
    (i : Nat) : itemsFrom check i (items.map write) = .ok items := by
  induction items generalizing i with
  | nil => rfl
  | cons a rest ih =>
    have hfirst : within (.index i) (check (write a)) = .ok a :=
      within_ok.mpr (h a List.mem_cons_self)
    exact map_ok.mpr ⟨(a, rest), both_ok.mpr
      ⟨hfirst, ih (fun b hb => h b (List.mem_cons_of_mem a hb)) (i + 1)⟩, rfl⟩

theorem checkEntries_write {made : List (String × α)}
    (h : ∀ entry ∈ made, check (write entry.2) = .ok entry.2) :
    checkEntries check (Entries.ofNames (made.map fun (name, a) => (name, write a))) =
      .ok made := by
  induction made with
  | nil => rfl
  | cons entry rest ih =>
    have hentry := h entry List.mem_cons_self
    have hrest := ih fun other hother => h other (List.mem_cons_of_mem entry hother)
    refine map_ok.mpr ⟨(entry, rest), Checked.both_ok.mpr ⟨Checked.both_ok.mpr ⟨rfl, ?_⟩, hrest⟩,
      rfl⟩
    exact Checked.within_ok.mpr hentry

theorem checkExtras_ofNames {taken : List String} :
    checkExtras taken (Entries.ofNames fields) =
      .ok (fields.filter fun field => !taken.contains field.1) := by
  induction fields with
  | nil => rfl
  | cons field rest ih =>
    simp only [Entries.ofNames] at ih
    simp only [Entries.ofNames, List.map_cons, checkExtras, ih, List.filter_cons]
    cases taken.contains field.1 <;> rfl

theorem Field.given?_entry {field : Field} {given : Option Value}
    {before after : List (String × Value)}
    (hbefore : ∀ entry ∈ before, entry.1 ≠ field.key ∧ entry.1 ≠ field.spelling)
    (hafter : given = none → ∀ entry ∈ after, entry.1 ≠ field.key ∧ entry.1 ≠ field.spelling) :
    field.given? (Entries.ofNames (before ++ ((given.map (field.key, ·)).toList ++ after))) =
      given.map (field.key, ·) := by
  have hkey : before.lookup field.key = none :=
    List.lookup_eq_none_iff.mpr fun entry h => by simpa using (hbefore entry h).1.symm
  have hspelling : before.lookup field.spelling = none :=
    List.lookup_eq_none_iff.mpr fun entry h => by simpa using (hbefore entry h).2.symm
  simp only [Field.given?, Entries.get?_ofNames, List.lookup_append, hkey, hspelling,
    Option.none_or]
  cases given with
  | some v => simp
  | none =>
    have hkey' : after.lookup field.key = none :=
      List.lookup_eq_none_iff.mpr fun entry h => by simpa using (hafter rfl entry h).1.symm
    have hspelling' : after.lookup field.spelling = none :=
      List.lookup_eq_none_iff.mpr fun entry h => by simpa using (hafter rfl entry h).2.symm
    simp [hkey', hspelling']

end

namespace Fields

theorem write_cons {field : Field} {schema : Schema} {rest : Fields}
    {form : (cons field schema rest).Form} : (cons field schema rest).write false form =
      ((field.presence.given schema form.1).map (field.key, ·)).toList ++
        rest.write false form.2 := rfl

theorem write_declared : (fs : Fields) → ∀ (form : fs.Form), ∀ entry ∈ fs.write false form,
    ∃ field ∈ fs.declared, field.key = entry.1
  | .nil, _, _, h => by simp [write] at h
  | .cons field schema rest, form, entry, h => by
    rw [write_cons, List.mem_append, Option.mem_toList, Option.map_eq_some_iff] at h
    rcases h with ⟨v, -, rfl⟩ | h
    · exact ⟨field, List.mem_cons_self, rfl⟩
    · obtain ⟨other, hother, heq⟩ := rest.write_declared form.2 entry h
      exact ⟨other, List.mem_cons_of_mem field hother, heq⟩

theorem leaves_declared {name : String} : (fs : Fields) → ∀ (form : fs.Form),
    fs.Leaves name form → ∀ field ∈ fs.declared, name ≠ field.key
  | .nil, _, _, _, h => by simp [declared] at h
  | .cons field schema rest, form, hleaves, other, h => by
    rcases List.mem_cons.mp h with rfl | h
    · exact hleaves.1
    · exact rest.leaves_declared form.2 hleaves.2.2 other h

theorem taken_spelled {entries : Entries} : (fs : Fields) → ∀ (form : fs.Form),
    fs.Spelled entries form → fs.taken entries = (fs.write false form).map (·.1)
  | .nil, _, _ => rfl
  | .cons field schema rest, form, h => by
    have hrest := rest.taken_spelled form.2 h.2
    rw [taken, write_cons, h.1, hrest, List.map_append]
    cases field.presence.given schema form.1 <;> rfl

theorem spelled_write {extras : List (String × Value)} : (fs : Fields) → ∀ (form : fs.Form)
    (before : List (String × Value)), fs.isRegular = true →
    (∀ entry ∈ before, ∀ field ∈ fs.declared,
      entry.1 ≠ field.key ∧ entry.1 ≠ field.spelling) →
    (∀ extra ∈ extras, fs.Leaves extra.1 form) →
    fs.Spelled (Entries.ofNames (before ++ (fs.write false form ++ extras))) form
  | .nil, _, _, _, _, _ => trivial
  | .cons field schema rest, form, before, hregular, hbefore, hextras => by
    simp only [isRegular, Bool.and_eq_true, List.all_eq_true] at hregular
    obtain ⟨⟨⟨hapart, -⟩, -⟩, hrest⟩ := hregular
    have hother : ∀ other ∈ rest.declared, field.key ≠ other.key ∧ field.key ≠ other.spelling ∧
        field.spelling ≠ other.key := by
      intro other h
      simpa [Field.isApart, and_assoc] using hapart other h
    rw [write_cons, List.append_assoc]
    refine ⟨Field.given?_entry (fun entry h => hbefore entry h field List.mem_cons_self) ?after, ?_⟩
    case after =>
      intro hgiven entry hentry
      rcases List.mem_append.mp hentry with hentry | hentry
      · obtain ⟨other, hdeclared, heq⟩ := rest.write_declared form.2 entry hentry
        have hnames := hother other hdeclared
        rw [← heq]
        exact ⟨hnames.1.symm, hnames.2.2.symm⟩
      · have hleaves := hextras entry hentry
        exact ⟨hleaves.1, hleaves.2.1 hgiven⟩
    · -- The entry of this field stands before those of the rest.
      rw [← List.append_assoc before]
      refine rest.spelled_write form.2 _ hrest (fun entry hentry other hdeclared => ?_)
        fun extra hextra => (hextras extra hextra).2.2
      rcases List.mem_append.mp hentry with hentry | hentry
      · exact hbefore entry hentry other (List.mem_cons_of_mem field hdeclared)
      · obtain ⟨v, -, rfl⟩ := Option.map_eq_some_iff.mp (Option.mem_toList.mp hentry)
        exact ⟨(hother other hdeclared).1, (hother other hdeclared).2.1⟩

theorem checkExtras_write {fs : Fields} {form : fs.Form} {extras : List (String × Value)}
    {entries : Entries} (hspelled : fs.Spelled entries form)
    (hextras : ∀ extra ∈ extras, fs.Leaves extra.1 form) :
    checkExtras (fs.taken entries) (Entries.ofNames (fs.write false form ++ extras)) =
      .ok extras := by
  have hwritten : ∀ entry ∈ fs.write false form, (fs.taken entries).contains entry.1 = true := by
    intro entry hentry
    rw [taken_spelled fs form hspelled, List.contains_iff_mem]
    exact List.mem_map_of_mem hentry
  have hleft : ∀ extra ∈ extras, (fs.taken entries).contains extra.1 = false := by
    intro extra hextra
    rw [taken_spelled fs form hspelled, ← Bool.not_eq_true, List.contains_iff_mem]
    intro hmem
    obtain ⟨entry, hentry, heq⟩ := List.mem_map.mp hmem
    obtain ⟨field, hdeclared, hkey⟩ := fs.write_declared form entry hentry
    exact fs.leaves_declared form (hextras extra hextra) field hdeclared (by rw [hkey, heq])
  rw [checkExtras_ofNames, List.filter_append,
    List.filter_eq_nil_iff.mpr fun entry h => by simp only [hwritten entry h]; decide,
    List.filter_eq_self.mpr fun extra h => by simp only [hleft extra h]; decide,
    List.nil_append]

end Fields

mutual
/-- What is written of a value that was read is read as that value again. -/
theorem Schema.check_write : (s : Schema) → s.isRegular = true → ∀ (form : s.Form),
    s.Normal form → s.check (s.write false form) = .ok form
  | .bool, _, _, _ => rfl
  | .int, _, _, _ => rfl
  | .text, _, _, _ => rfl
  | .quantity, _, _, _ => rfl
  | .label, _, _, _ => rfl
  | .any, _, _, _ => rfl
  | .list item, hregular, items, h =>
    Checked.itemsFrom_write (fun a ha => item.check_write hregular a (h a ha)) 0
  | .dict item, hregular, entries, h =>
    map_ok.mpr ⟨entries,
      checkEntries_write fun entry hentry => item.check_write hregular entry.2 (h.2 entry hentry),
      named_of_nodup h.1⟩
  | .record _ fields, hregular, form, h => by
    have hspelled : fields.Spelled (Entries.ofNames (fields.write false form.1 ++ form.2)) form.1 :=
      fields.spelled_write form.1 [] hregular (by simp) h.2
    exact Checked.both_ok.mpr ⟨fields.check_spelled hregular _ form.1 h.1 hspelled,
      Fields.checkExtras_write hspelled h.2⟩
theorem Fields.check_spelled : (fs : Fields) → fs.isRegular = true → ∀ (entries : Entries)
    (form : fs.Form), fs.Normal form → fs.Spelled entries form → fs.check entries = .ok form
  | .nil, _, _, _, _, _ => rfl
  | .cons field schema rest, hregular, entries, form, h, hspelled => by
    simp only [Fields.isRegular, Bool.and_eq_true, Bool.not_eq_true'] at hregular
    obtain ⟨⟨⟨-, hany⟩, hschema⟩, hrest⟩ := hregular
    refine Fields.check_cons.mpr ⟨?own, rest.check_spelled hrest entries form.2 h.2 hspelled.2⟩
    refine Field.check_spelled (fun _ => Schema.write_ne_null hany) (h.1.imp fun a ha => ?_)
      hspelled.1
    exact schema.check_write hschema a ha
end

-- -----------------------------------------------------------------------------
-- Documents
-- -----------------------------------------------------------------------------

section
variable {document : Document} {v : Value} {entries : Entries}

def Fields.written (fs : Fields) (form : (Schema.record name fs).Form) : Entries :=
  Entries.ofNames (fs.write false form.1 ++ form.2)

theorem Fields.spelled_written {name : String} {fs : Fields} {form : (Schema.record name fs).Form}
    (hregular : fs.isRegular = true) (h : (Schema.record name fs).Normal form) :
    fs.Spelled (fs.written form) form.1 :=
  fs.spelled_write form.1 [] hregular (by simp) h.2

theorem matchDeclared_write (h : matchDeclared v = .ok document) :
    matchDeclared (document.write false) = .ok document := by
  have hnormal := Declared.pod.check_normal v document.form (matchDeclared_ok.mp h)
  exact matchDeclared_ok.mpr (Declared.pod.check_write Declared.pod_isRegular _ hnormal)

theorem checkContainers_given {item : Schema} {slot : Option (List item.Form)} :
    checkContainers ((Presence.given (.list item) .collapsing slot).getD .null) = .ok () := by
  cases slot <;> rfl

theorem checkSpec_write {form : Declared.podSpec.Form} (h : Declared.podSpec.Normal form) :
    checkSpec (Declared.podSpec.write false form) = .ok () := by
  obtain ⟨-, -, -, -, -, -, -, -, hcontainers, -⟩ := Fields.spelled_written (by decide) h
  have hget := Field.get?_given hcontainers
  exact (congrArg (fun found => checkContainers (found.getD .null)) hget).trans
    checkContainers_given

theorem checkSpec_given {slot : Option Declared.podSpec.Form}
    (h : ∀ form, slot = some form → Declared.podSpec.Normal form) :
    checkSpec ((Presence.given Declared.podSpec .collapsing slot).getD .null) = .ok () := by
  cases slot with
  | none => rfl
  | some form => exact checkSpec_write (h form rfl)

theorem checkOutline_write (hnormal : Declared.pod.Normal document.form)
    (hkind : document.pod.kind ≠ "") : checkOutline (document.write false) = .ok () := by
  obtain ⟨⟨⟨kind, apiVersion, metadata, spec, ⟨⟩⟩, extras⟩⟩ := document
  obtain ⟨hgetKind, -, -, hgetSpec, -⟩ := Fields.spelled_written Declared.pod_isRegular hnormal
  refine bind_ok.mpr ⟨kind, kindOf_ok.mpr ⟨?kind, hkind⟩, ?spec⟩
  case kind => exact Entries.get_of_get? (Field.get?_given hgetKind)
  case spec =>
    obtain ⟨⟨-, -, -, hspec, -⟩, -⟩ := hnormal
    have hget := Field.get?_given hgetSpec
    exact (congrArg (fun found => checkSpec (found.getD .null)) hget).trans
      (checkSpec_given hspec)

/-- Reading and writing once leaves nothing to change: the normal form of a
manifest is read as the same document, with the same value in every field, and
written as it is. Both forms of a pod, and the document itself, are judged alike. -/
theorem readDocument_write (h : readDocument v = .ok document) :
    ∃ again, readDocument (document.write false) = .ok again ∧
      again.write false = document.write false ∧ again.form = document.form ∧
      (document.pod.kind = "Pod" → ∀ e : Engine,
        e.assess (.decoded (document.write false)) = e.assess (.decoded v) ∧
        e.assess (.decoded v) = e.assess (.built document)) := by
  obtain ⟨_, houtline, hmatch⟩ := bind_ok.mp h
  have hform := matchDeclared_ok.mp hmatch
  obtain ⟨entries, rfl⟩ := record_mapping hform
  have hagain : readDocument (document.write false) = .ok document := by
    have hnormal := Declared.pod.check_normal _ document.form hform
    exact bind_ok.mpr ⟨(), checkOutline_write hnormal (readDocument_kind h).2,
      matchDeclared_write hmatch⟩
  refine ⟨document, hagain, rfl, rfl, fun hpod e => ?_⟩
  have hread : (Submission.decoded (.mapping entries)).readPod = .ok (some document.pod) :=
    readPod_document h hpod
  have hreadAgain : (Submission.decoded (document.write false)).readPod =
      .ok (some document.pod) := readPod_document hagain hpod
  have hbuilt : (Submission.built document).readPod = .ok (some document.pod) := rfl
  exact ⟨(assess_some hreadAgain).trans (assess_some hread).symm,
    (assess_some hread).trans (assess_some hbuilt).symm⟩

end

def loosePod : Value :=
  .record [
    ("spec", .record [
      ("host_pid", .text "kept"),
      ("host_network", .text "Yes"),
      ("hostPID", .int 1),
      ("terminationGracePeriodSeconds", .text "007"),
      ("volumes", .null),
      ("containers", .list [.record [
        ("resources", .record [("limits", .record [("cpu", .bool true)])]),
        ("security_context", .record [("run_as_user", .double (.finite false 5 0))]),
        ("name", .text "main"),
        ("image", .null)]])]),
    ("metadata", .record [("labels", .record [("app", .null)]), ("annotations", .null)]),
    ("kind", .text "Pod"),
    ("status", .int 7)]

def plainPod : Value :=
  .record [
    ("kind", .text "Pod"),
    ("metadata", .record [("labels", .record [("app", .text "")]), ("annotations", .record [])]),
    ("spec", .record [
      ("hostNetwork", .bool true),
      ("hostPID", .bool true),
      ("terminationGracePeriodSeconds", .int 7),
      ("volumes", .list []),
      ("containers", .list [.record [
        ("name", .text "main"),
        ("image", .null),
        ("securityContext", .record [("runAsUser", .int 5)]),
        ("resources", .record [("limits", .record [("cpu", .text "true")])])]]),
      ("host_pid", .text "kept")]),
    ("status", .int 7)]

theorem loosePod_write : (readDocument loosePod).map (Document.write false) = .ok plainPod :=
  rfl

/-- The normal form of the loose pod is the plain one, and every engine judges
both alike. -/
theorem assess_loosePod : ∃ document, readDocument loosePod = .ok document ∧
    readDocument plainPod = .ok document ∧ document.write false = plainPod ∧
    ∀ e : Engine, e.assess (.decoded plainPod) = e.assess (.decoded loosePod) := by
  obtain ⟨document, hread, hplain⟩ := map_ok.mp loosePod_write
  have hpod : document.pod.kind = "Pod" := (Value.text.inj (readDocument_kind hread).1).symm
  obtain ⟨again, hagain, -, hform, hassess⟩ := readDocument_write hread
  rw [hplain] at hagain hassess
  have heq : again = document := congrArg Document.mk hform
  exact ⟨document, hread, heq ▸ hagain, hplain, fun e => (hassess hpod e).1⟩

end PodPolicy
