import PodPolicy.Proofs.JsonValue
import PodPolicy.Proofs.Places
import PodPolicy.Proofs.PodShape

/-!
# Every problem of a document is reported

A document that has the outline of a manifest is read, or refused with all its problems.
`readDocument_itemized`: they are the places where a declared part ails, and their list
is put together from parts that do not know of each other: version, metadata and spec,
in the spec its fields, and in a list its items. Each part has in the list the problems
that it has by itself, wherever it is put. So a bad item that is mended takes its own
problems away, and nothing else changes.
-/

namespace PodPolicy

-- -----------------------------------------------------------------------------
-- Reports
-- -----------------------------------------------------------------------------

/-- A document is read, with no problems, or refused with all of them. -/
inductive Reports (v : Value) : List Problem → Prop
  | read {document : Document} (h : readDocument v = .ok document) : Reports v []
  | refused {problems : List Problem} (hne : problems ≠ [])
      (h : readDocument v = .error (.mismatch problems)) : Reports v problems

def Entries.Sound (entries : Entries) : Prop :=
  ∃ document, readDocument (.mapping entries) = .ok document

def Fields.toList : Fields → List Field
  | .nil => []
  | .cons field _ rest => field :: rest.toList

def Schema.fields : Schema → List Field
  | .record _ fields => fields.toList
  | _ => []

example : Declared.podSpec.fields.map Field.key = ["hostNetwork", "hostPID", "hostIPC",
    "shareProcessNamespace", "automountServiceAccountToken", "terminationGracePeriodSeconds",
    "securityContext", "volumes", "containers"] := rfl

def Schema.itemProblems (item : Schema) (path : List Step) (items : List Value) :
    List Problem :=
  items.zipIdx.flatMap fun entry =>
    (item.check entry.1).problems.map (Problem.under (path ++ [.index entry.2]))

def Value.isOneOf (names : List String) (v : Value) : Bool :=
  names.any v.isText

/-- What stands under the names is taken from another mapping. -/
def Entries.graft (host : Entries) (names : List String) (other : Entries) : Entries :=
  (host.filter fun entry => !entry.1.isOneOf names) ++
    other.filter fun entry => entry.1.isOneOf names

section
variable {v w : Value} {problems : List Problem} {path : List Step} {cause : Cause}

theorem reports_check (houtline : checkOutline v = .ok ()) :
    Reports v (Declared.pod.check v).problems := by
  have hread : readDocument v = matchDeclared v := by
    rw [readDocument, houtline]
    rfl
  have htells := Schema.check_tells Declared.pod v
  unfold matchDeclared at hread
  cases hcheck : Declared.pod.check v with
  | ok form =>
    rw [hcheck] at hread
    exact .read hread
  | error found =>
    rw [hcheck] at hread htells
    exact .refused (fun hnil => htells (congrArg _ hnil)) hread

theorem Reports.of_eq (houtline : checkOutline v = .ok ())
    (h : (Declared.pod.check v).problems = problems) : Reports v problems :=
  h ▸ reports_check houtline

theorem Reports.unique (h : Reports v problems) {more : List Problem} (h' : Reports v more) :
    problems = more := by
  cases h with
  | read h =>
    cases h' with
    | read _ => rfl
    | refused _ h' => cases h.symm.trans h'
  | refused _ h =>
    cases h' with
    | read h' => cases h.symm.trans h'
    | refused _ h' =>
      cases h.symm.trans h'
      rfl

theorem Reports.refused_iff (h : Reports v problems) :
    (∃ e, readDocument v = .error e) ↔ problems ≠ [] := by
  cases h with
  | read h => exact iff_of_false (by rintro ⟨e, he⟩; cases h.symm.trans he) (absurd rfl)
  | refused hne h => exact iff_of_true ⟨_, h⟩ hne

theorem Reports.of_error {e : ShapeError} (h : Reports v problems)
    (he : readDocument v = .error e) : problems ≠ [] ∧ e = .mismatch problems := by
  cases h with
  | read h => cases h.symm.trans he
  | refused hne h =>
    cases h.symm.trans he
    exact ⟨hne, rfl⟩

end

-- -----------------------------------------------------------------------------
-- Outlines
-- -----------------------------------------------------------------------------

section
variable {entries changed host : Entries} {name spelling : String} {names : List String}
  {v w : Value}

theorem checkOutline_ok : checkOutline (.mapping entries) = .ok () ↔
    (∃ kind, kindOf entries = .ok kind) ∧ checkSpec (entries.get "spec") = .ok () := by
  refine bind_ok.trans ⟨?_, ?_⟩
  · rintro ⟨kind, hkind, hspec⟩
    exact ⟨⟨kind, hkind⟩, hspec⟩
  · rintro ⟨⟨kind, hkind⟩, hspec⟩
    exact ⟨kind, hkind, hspec⟩

theorem kindOf_congr (h : changed.get "kind" = entries.get "kind") :
    kindOf changed = kindOf entries := by
  rw [kindOf, kindOf, h]

theorem Entries.Sound.checked (h : host.Sound) :
    checkOutline (.mapping host) = .ok () ∧
      (Declared.pod.check (.mapping host)).problems = [] := by
  obtain ⟨document, hread⟩ := h
  obtain ⟨_, houtline, hmatch⟩ := bind_ok.mp hread
  refine ⟨houtline, ?_⟩
  rw [matchDeclared_ok.mp hmatch]
  rfl

theorem Value.isOneOf_text : (Value.text name).isOneOf names = true ↔ name ∈ names := by
  simp [isOneOf, isText]

namespace Entries

theorem get?_append : Entries.get? (entries ++ changed) name =
    (entries.get? name).or (changed.get? name) := by
  simp only [get?, List.find?_append, Option.map_or]

theorem get?_graft : (host.graft names entries).get? name =
    if name ∈ names then entries.get? name else host.get? name := by
  rw [graft, get?_append, get?_filter fun key => !key.isOneOf names, get?_filter]
  by_cases h : name ∈ names
  · simp [h, Value.isOneOf_text.mpr h]
  · simp [h, Bool.eq_false_iff.mpr (Value.isOneOf_text.not.mpr h)]

theorem get_graft (host entries : Entries) (names : List String) (name : String) :
    (host.graft names entries).get name = entries.get name ∨
      (host.graft names entries).get name = host.get name := by
  rw [get, get?_graft]
  split
  · exact .inl rfl
  · exact .inr rfl

theorem strange_graft : (host.graft names entries).strange = host.strange := by
  have hhost : (fun entry : Value × Value => !entry.1.isName && !entry.1.isOneOf names) =
      fun entry => !entry.1.isName := by
    funext entry
    cases h : entry.1 <;> simp [Value.isName, Value.isOneOf, Value.isText]
  have hother : (fun entry : Value × Value => !entry.1.isName && entry.1.isOneOf names) =
      fun _ => false := by
    funext entry
    cases h : entry.1 <;> simp [Value.isName, Value.isOneOf, Value.isText]
  simp only [strange, graft, List.filter_append, List.filter_filter, hhost, hother]
  simp

end Entries

theorem checkOutline_graft (hhost : checkOutline (.mapping host) = .ok ())
    (h : checkOutline (.mapping entries) = .ok ()) :
    checkOutline (.mapping (host.graft names entries)) = .ok () := by
  rw [checkOutline_ok] at *
  refine ⟨?_, ?_⟩
  · rcases Entries.get_graft host entries names "kind" with hkind | hkind <;>
      rw [kindOf_congr hkind]
    · exact h.1
    · exact hhost.1
  · rcases Entries.get_graft host entries names "spec" with hspec | hspec <;> rw [hspec]
    · exact h.2
    · exact hhost.2

end

-- -----------------------------------------------------------------------------
-- Parts in another document
-- -----------------------------------------------------------------------------

section
variable {name spelling : String} {fields : Fields} {field : Field} {schema : Schema}
  {entries host spec hostSpec : Entries} {names : List String} {v : Value}

theorem Schema.problems_graft (hfield : fields.Has field schema)
    (htolerant : fields.isTolerant = true)
    (hnames : ∀ other, other ∈ names ↔ other ∈ field.names)
    (hhost : ((record name fields).check (.mapping host)).problems = []) :
    ((record name fields).check (.mapping (host.graft names entries))).problems =
      (field.check schema.check schema.empty entries).problems := by
  obtain ⟨before, after, -, hfields⟩ := hfield.problems_split htolerant host
  rw [Schema.check, Checked.problems_both, hfields host fun _ _ => rfl,
    problems_checkExtras] at hhost
  simp only [List.append_eq_nil_iff, List.map_eq_nil_iff] at hhost
  obtain ⟨⟨⟨rfl, -⟩, rfl⟩, hstrange⟩ := hhost
  have hsame : ∀ other ∈ field.names,
      (host.graft names entries).get? other = entries.get? other := fun other hother => by
    rw [Entries.get?_graft, if_pos ((hnames other).mpr hother)]
  have hothers : ∀ other ∉ field.names,
      (host.graft names entries).get? other = host.get? other := fun other hother => by
    rw [Entries.get?_graft, if_neg ((hnames other).not.mpr hother)]
  rw [Schema.check, Checked.problems_both, hfields _ hothers, problems_checkExtras,
    Entries.strange_graft, hstrange, Field.check_congr hsame, List.map_nil, List.append_nil,
    List.append_nil, List.nil_append]

/-- What is given for a field of a record without problems has none, and a value in its
place has its own problems there. -/
theorem Schema.problems_put (hfield : fields.Has field schema)
    (htolerant : fields.isTolerant = true) (hgiven : field.given? host = some (spelling, v))
    (hv : v ≠ .null) (hhost : ((record name fields).check (.mapping host)).problems = []) :
    (schema.check v).problems = [] ∧ ∀ w, w ≠ .null →
      ((record name fields).check (.mapping (host.put (.text spelling) w))).problems =
        (schema.check w).problems.map (Problem.within (.name spelling)) := by
  have hholds : (record name fields).Holds (.mapping host) [.name spelling] schema v :=
    .field hfield hgiven .here
  obtain ⟨before, after, -, -, hput⟩ := hholds.problems_putAt htolerant
  have hself := hput v hv
  rw [hholds.putAt_self, hhost, eq_comm, List.append_eq_nil_iff, List.append_eq_nil_iff,
    List.map_eq_nil_iff] at hself
  obtain ⟨⟨rfl, hproblems⟩, rfl⟩ := hself
  refine ⟨hproblems, fun w hw => ?_⟩
  have hproblems := hput w hw
  rwa [Value.putAt, Value.putAt_nil, List.nil_append, List.append_nil] at hproblems

theorem Entries.Sound.reports_spec (hhost : host.Sound)
    (hget : host.get "spec" = .mapping hostSpec)
    (hcontainers : checkContainers (spec.get "containers") = .ok ()) :
    (Declared.podSpec.check (.mapping hostSpec)).problems = [] ∧
      Reports (.mapping (host.put (.text "spec") (.mapping spec)))
        ((Declared.podSpec.check (.mapping spec)).problems.map (Problem.within (.name "spec"))) := by
  obtain ⟨houtline, hproblems⟩ := hhost.checked
  have hgiven : (Field.mk "spec" "spec" .collapsing).given? host =
      some ("spec", .mapping hostSpec) := by
    rw [Field.given?_single, Entries.get?_of_get hget nofun, Option.map_some]
  obtain ⟨hspec, hput⟩ := Schema.problems_put (.there (.there (.there .here)))
    Declared.pod_isTolerant hgiven nofun hproblems
  refine ⟨hspec, .of_eq (checkOutline_ok.mpr ⟨?_, ?_⟩) (hput _ nofun)⟩
  · rw [kindOf_congr (Entries.get_put_other (by decide))]
    exact (checkOutline_ok.mp houtline).1
  · rw [Entries.get_put_same]
    exact hcontainers

end

-- -----------------------------------------------------------------------------
-- Lists in a document
-- -----------------------------------------------------------------------------

section
variable {items others : List Value} {path : List Step}

theorem checkContainers_putAt {v : Value} : checkContainers (v.putAt path (.list items)) =
    checkContainers (v.putAt path (.list others)) := by
  cases path with
  | nil => rw [Value.putAt_nil, Value.putAt_nil]; rfl
  | cons step path => cases v <;> cases step <;> rfl

theorem checkSpec_putAt {v : Value} : checkSpec (v.putAt path (.list items)) =
    checkSpec (v.putAt path (.list others)) := by
  cases path with
  | nil => rw [Value.putAt_nil, Value.putAt_nil]; rfl
  | cons step path =>
    cases v with
    | mapping entries =>
      cases step with
      | name spelling =>
        simp only [Value.putAt, checkSpec]
        by_cases h : "containers" = spelling
        · subst h
          rw [Entries.get_put_same, Entries.get_put_same]
          exact checkContainers_putAt
        · rw [Entries.get_put_other h, Entries.get_put_other h]
      | _ => rfl
    | _ => cases step <;> rfl

theorem kindOf_putAt (items others : List Value) {entries : Entries} {spelling : String}
    {v : Value} : kindOf (entries.put (.text spelling) (v.putAt path (.list items))) =
      kindOf (entries.put (.text spelling) (v.putAt path (.list others))) := by
  by_cases h : "kind" = spelling
  · subst h
    rw [kindOf, kindOf, Entries.get_put_same, Entries.get_put_same]
    cases path with
    | nil => rw [Value.putAt_nil, Value.putAt_nil]
    | cons step path => cases v <;> cases step <;> rfl
  · exact kindOf_congr (by rw [Entries.get_put_other h, Entries.get_put_other h])

theorem checkOutline_putAt {v : Value} : checkOutline (v.putAt path (.list items)) =
    checkOutline (v.putAt path (.list others)) := by
  cases path with
  | nil => rw [Value.putAt_nil, Value.putAt_nil]; rfl
  | cons step path =>
    cases v with
    | mapping entries =>
      cases step with
      | name spelling =>
        simp only [Value.putAt, checkOutline, kindOf_putAt items others]
        by_cases h : "spec" = spelling
        · subst h
          rw [Entries.get_put_same, Entries.get_put_same, checkSpec_putAt]
        · rw [Entries.get_put_other h, Entries.get_put_other h]
      | _ => rfl
    | _ => cases step <;> rfl

end

section
variable {v : Value} {item : Schema} {path : List Step} {items : List Value} {i : Nat}

theorem Schema.itemProblems_eq : item.itemProblems path items =
    ((Schema.list item).check (.list items)).problems.map (Problem.under path) := by
  rw [Schema.check, Checked.items, Checked.problems_itemsFrom, List.map_flatMap]
  simp only [itemProblems, map_under_snoc]

theorem Schema.itemProblems_set (item : Schema) (path : List Step) (hlt : i < items.length) :
    ∃ before after : List Problem, Apart (path ++ [.index i]) before ∧
      Apart (path ++ [.index i]) after ∧ ∀ v, item.itemProblems path (items.set i v) =
        before ++ (item.check v).problems.map (Problem.under (path ++ [.index i])) ++ after := by
  obtain ⟨before, after, hbefore, hafter, hitems⟩ := Checked.problems_items item.check hlt
  refine ⟨before.map (Problem.under path), after.map (Problem.under path),
    apart_under.mpr hbefore, apart_under.mpr hafter, fun v => ?_⟩
  have hset : items.set i v = items.modify i fun _ => v := by
    rw [List.modify_eq_take_cons_drop hlt, List.set_eq_take_cons_drop v hlt]
  rw [itemProblems_eq, Schema.check, hset, hitems, List.map_append, List.map_append,
    map_under_snoc]

/-- The items of a list are reported one after the other, and nothing around them
depends on what the list holds. -/
theorem reports_items (hholds : Declared.pod.Holds v path (.list item) (.list items))
    (houtline : checkOutline v = .ok ()) :
    ∃ before after : List Problem, Apart path before ∧ Apart path after ∧
      ∀ others, Reports (v.putAt path (.list others))
        (before ++ item.itemProblems path others ++ after) := by
  obtain ⟨before, after, hbefore, hafter, hput⟩ := hholds.problems_putAt Declared.pod_isTolerant
  refine ⟨before, after, hbefore, hafter, fun others => ?_⟩
  have hlist : Value.list others ≠ .null := nofun
  -- The outline is checked for the list that stands there, and so for any other.
  refine .of_eq (checkOutline_putAt.trans ((congrArg _ hholds.putAt_self).trans houtline)) ?_
  rw [hput _ hlist, Schema.itemProblems_eq]

end

-- -----------------------------------------------------------------------------
-- Documents
-- -----------------------------------------------------------------------------

structure Itemized (entries : Entries) : Prop where
  /-- It is refused where something ails. -/
  refused_iff : (∃ e, readDocument (.mapping entries) = .error e) ↔
    ∃ path cause, Declared.pod.Ails (.mapping entries) path cause
  /-- The problems are the places that ail. -/
  places : ∀ problems, Reports (.mapping entries) problems → ∀ path cause,
    ⟨path, cause⟩ ∈ problems ↔ Declared.pod.Ails (.mapping entries) path cause
  /-- The version, the metadata and the spec are reported in this order, and in a spec its
  fields in theirs, each as it is in a document that is sound but for it. -/
  parts : ∃ ofVersion ofMetadata ofSpec : List Problem,
    Reports (.mapping entries) (ofVersion ++ ofMetadata ++ ofSpec) ∧
    (∀ host : Entries, host.Sound →
      Reports (.mapping (host.graft ["apiVersion", "api_version"] entries)) ofVersion ∧
        Reports (.mapping (host.graft ["metadata"] entries)) ofMetadata ∧
          Reports (.mapping (host.graft ["spec"] entries)) ofSpec) ∧
    ∀ spec, entries.get "spec" = .mapping spec → ∃ ofFields : List (Field × List Problem),
      ofFields.map Prod.fst = Declared.podSpec.fields ∧ ofSpec = ofFields.flatMap Prod.snd ∧
      ∀ part ∈ ofFields, ∀ host hostSpec : Entries, host.Sound →
        host.get "spec" = .mapping hostSpec →
        Reports (.mapping (host.put (.text "spec") (.mapping (hostSpec.graft part.1.names spec))))
          part.2
  /-- In a list, at any depth, the items are reported in their order, each as it is alone. -/
  lists : ∀ (path : List Step) (item : Schema) (items : List Value),
    Declared.pod.Holds (.mapping entries) path (.list item) (.list items) →
      ∃ before after : List Problem, Apart path before ∧ Apart path after ∧
        Reports (.mapping entries) (before ++ item.itemProblems path items ++ after) ∧
        ∀ others, Reports ((Value.mapping entries).putAt path (.list others))
          (before ++ item.itemProblems path others ++ after)
  /-- A good item in the place of a bad one takes the problems of the bad one away, and no
  others. -/
  mended : ∀ (path : List Step) (item : Schema) (items : List Value) (i : Nat) (bad good : Value)
    (form : item.Form), Declared.pod.Holds (.mapping entries) path (.list item) (.list items) →
      items[i]? = some bad → item.check good = .ok form →
      ∃ before after : List Problem, Apart (path ++ [.index i]) before ∧
        Apart (path ++ [.index i]) after ∧
        Reports (.mapping entries) (before ++
          (item.check bad).problems.map (Problem.under (path ++ [.index i])) ++ after) ∧
        Reports ((Value.mapping entries).putAt path (.list (items.set i good))) (before ++ after)
  /-- All problems are told, in their order. -/
  told : ∀ e, readDocument (.mapping entries) = .error e → ∃ problems,
    Reports (.mapping entries) problems ∧ e.toText =
      "Manifest does not match the Pod shape: " ++ "; ".intercalate (problems.map Problem.toText)

theorem Fields.parts_fields {entries : Entries} : (fs : Fields) →
    (fs.parts entries).map Prod.fst = fs.toList
  | .nil => rfl
  | .cons field _ rest => congrArg (field :: ·) rest.parts_fields

theorem Value.IsJson.strange {entries : Entries} (h : (Value.mapping entries).IsJson) :
    entries.strange = [] := by
  obtain ⟨fields, rfl, -⟩ := h.ofNames
  refine List.filter_eq_nil_iff.mpr fun entry hentry => ?_
  obtain ⟨field, -, rfl⟩ := List.mem_map.mp hentry
  exact nofun

section
variable {entries spec host hostSpec : Entries} {field : Field} {schema : Schema} {name : String}
  {fields : Fields} {names : List String} {problems : List Problem} {v : Value} {path : List Step}
  {cause : Cause}

theorem Reports.places (h : Reports v problems) (houtline : checkOutline v = .ok ()) :
    ⟨path, cause⟩ ∈ problems ↔ Declared.pod.Ails v path cause := by
  rw [h.unique (reports_check houtline)]
  exact Declared.pod.check_findsAll Declared.pod_takesNull v path cause

theorem readDocument_refused_iff (houtline : checkOutline v = .ok ()) :
    (∃ e, readDocument v = .error e) ↔ ∃ path cause, Declared.pod.Ails v path cause := by
  have hreports := reports_check houtline
  rw [hreports.refused_iff]
  constructor
  · intro hne
    obtain ⟨p, hp⟩ := List.exists_mem_of_ne_nil _ hne
    exact ⟨p.path, p.cause, (hreports.places houtline).mp hp⟩
  · rintro ⟨path, cause, hails⟩
    exact List.ne_nil_of_mem ((hreports.places houtline).mpr hails)

theorem Entries.Sound.reports_graft (hhost : host.Sound)
    (houtline : checkOutline (.mapping entries) = .ok ())
    (hpod : Declared.pod = .record name fields) (hfield : fields.Has field schema)
    (hnames : ∀ other, other ∈ names ↔ other ∈ field.names) :
    Reports (.mapping (host.graft names entries))
      (field.check schema.check schema.empty entries).problems := by
  obtain ⟨hhostOutline, hproblems⟩ := hhost.checked
  have htolerant := Declared.pod_isTolerant
  refine .of_eq (checkOutline_graft hhostOutline houtline) ?_
  rw [hpod] at hproblems htolerant ⊢
  exact Schema.problems_graft hfield htolerant hnames hproblems

theorem problems_spec (hjson : (Value.mapping spec).IsJson)
    (hspec : entries.get "spec" = .mapping spec)
    (houtline : checkOutline (.mapping entries) = .ok ()) :
    ∃ ofFields : List (Field × List Problem),
      ofFields.map Prod.fst = Declared.podSpec.fields ∧
      ((Field.mk "spec" "spec" .collapsing).check Declared.podSpec.check Declared.podSpec.empty
        entries).problems = ofFields.flatMap Prod.snd ∧
      ∀ part ∈ ofFields, ∀ host hostSpec : Entries, host.Sound →
        host.get "spec" = .mapping hostSpec →
        Reports (.mapping (host.put (.text "spec") (.mapping (hostSpec.graft part.1.names spec))))
          part.2 := by
  have hgiven : (Field.mk "spec" "spec" .collapsing).given? entries =
      some ("spec", .mapping spec) := by
    rw [Field.given?_single, Entries.get?_of_get hspec nofun, Option.map_some]
  have hcontainers : checkContainers (spec.get "containers") = .ok () := by
    have hchecked := (checkOutline_ok.mp houtline).2
    rwa [hspec] at hchecked
  have htolerant : Declared.podSpec.isTolerant = true := by decide
  obtain ⟨name, fields, hshape⟩ : ∃ name fields, Declared.podSpec = .record name fields :=
    ⟨_, _, rfl⟩
  rw [hshape] at htolerant
  refine ⟨(fields.parts spec).map fun part =>
    (part.1, part.2.map (Problem.within (.name "spec"))), ?fields, ?problems, ?hosts⟩
  case fields =>
    rw [hshape, List.map_map]
    exact fields.parts_fields
  case problems =>
    rw [Field.problems_given hgiven nofun, hshape, Schema.problems_record, hjson.strange,
      List.map_nil, List.append_nil, List.map_flatMap, List.flatMap_map]
  case hosts =>
    rintro _ hpart host hostSpec hhost hget
    obtain ⟨part, hmem, rfl⟩ := List.mem_map.mp hpart
    obtain ⟨schema, hhas, hproblems⟩ := Fields.mem_parts.mp hmem
    have hgraft : checkContainers ((hostSpec.graft part.1.names spec).get "containers") =
        .ok () := by
      rcases hostSpec.get_graft spec part.1.names "containers" with h | h <;> rw [h]
      · exact hcontainers
      · have hchecked := (checkOutline_ok.mp hhost.checked.1).2
        rwa [hget] at hchecked
    obtain ⟨hsound, hreports⟩ := hhost.reports_spec hget hgraft
    rw [hshape] at hsound hreports
    rwa [Schema.problems_graft hhas htolerant (fun _ => Iff.rfl) hsound, ← hproblems] at hreports

theorem problems_document (hjson : (Value.mapping entries).IsJson)
    (houtline : checkOutline (.mapping entries) = .ok ()) :
    (Declared.pod.check (.mapping entries)).problems =
      ((Field.mk "apiVersion" "api_version" .optional).check Schema.text.check Schema.text.empty
        entries).problems ++
      ((Field.mk "metadata" "metadata" .collapsing).check Declared.metadata.check
        Declared.metadata.empty entries).problems ++
      ((Field.mk "spec" "spec" .collapsing).check Declared.podSpec.check Declared.podSpec.empty
        entries).problems := by
  obtain ⟨⟨kind, hkind⟩, -⟩ := checkOutline_ok.mp houtline
  have hgiven : (Field.mk "kind" "kind" .required).given? entries = some ("kind", .text kind) := by
    rw [Field.given?_single, Entries.get?_of_get (kindOf_ok.mp hkind).1 nofun, Option.map_some]
  have hnone : ((Field.mk "kind" "kind" .required).check Schema.text.check Schema.text.empty
      entries).problems = [] := by
    rw [Field.problems_given hgiven nofun]
    rfl
  rw [Declared.pod, Schema.problems_record, hjson.strange]
  simp only [Fields.parts, List.flatMap_cons, List.flatMap_nil, hnone, List.nil_append,
    List.map_nil, List.append_nil, List.append_assoc]

end

/-- Every problem of a document is reported, in order and each for itself. -/
theorem readDocument_itemized {entries : Entries} (hjson : (Value.mapping entries).IsJson)
    (houtline : checkOutline (.mapping entries) = .ok ()) : Itemized entries := by
  refine ⟨readDocument_refused_iff houtline, fun problems h path cause => h.places houtline,
    ?parts, ?lists, ?mended, ?told⟩
  case parts =>
    refine ⟨_, _, _, .of_eq houtline (problems_document hjson houtline),
      fun host hhost => ⟨?version, ?metadata, ?spec⟩,
      fun spec hspec => problems_spec (hspec ▸ hjson.get) hspec houtline⟩
    case version =>
      exact hhost.reports_graft houtline rfl (.there .here) fun other => by simp [Field.names]
    case metadata =>
      exact hhost.reports_graft houtline rfl (.there (.there .here)) fun other => by
        simp [Field.names]
    case spec =>
      exact hhost.reports_graft houtline rfl (.there (.there (.there .here))) fun other => by
        simp [Field.names]
  case lists =>
    intro path item items hholds
    obtain ⟨before, after, hbefore, hafter, hreports⟩ := reports_items hholds houtline
    refine ⟨before, after, hbefore, hafter, ?_, hreports⟩
    have hself := hreports items
    rwa [hholds.putAt_self] at hself
  case mended =>
    intro path item items i bad good form hholds hat hgood
    obtain ⟨hlt, hget⟩ := List.getElem?_eq_some_iff.mp hat
    obtain ⟨head, tail, hhead, htail, hreports⟩ := reports_items hholds houtline
    obtain ⟨before, after, hbefore, hafter, hitems⟩ := item.itemProblems_set path hlt
    refine ⟨head ++ before, after ++ tail, apart_append.mpr ⟨hhead.further, hbefore⟩,
      apart_append.mpr ⟨hafter, htail.further⟩, ?bad, ?good⟩
    case bad =>
      -- The bad item put where it stands is the document itself.
      have hself := hreports (items.set i bad)
      rw [hitems, ← hget, List.set_getElem_self, hholds.putAt_self] at hself
      simpa only [hget, List.append_assoc] using hself
    case good =>
      have hset := hreports (items.set i good)
      rw [hitems, hgood] at hset
      simpa only [Checked.problems, List.map_nil, List.append_nil, List.append_assoc] using hset
  case told =>
    intro e he
    obtain ⟨hne, rfl⟩ := (reports_check houtline).of_error he
    refine ⟨_, reports_check houtline, ?_⟩
    rw [ShapeError.toText, ShapeError.withDetails, if_neg]
    · rfl
    · simpa [ShapeError.details, List.isEmpty_iff] using hne

def brokenPod : Entries :=
  Entries.ofNames [
    ("kind", .text "Pod"), ("apiVersion", .bool true),
    ("metadata", .record [("name", .bool false)]),
    ("spec", .record [
      ("hostNetwork", .text "maybe"),
      ("containers", .list [
        .record [("image", .text "web")],
        .record [("name", .text "proxy")],
        .record [("name", .text "db"), ("ports", .list [.record [("hostPort", .text "x")]])]])])]

theorem brokenPod_isJson : (Value.mapping brokenPod).IsJson := by
  have hports : (Value.list [.record [("hostPort", .text "x")]]).IsJson :=
    .list (List.forall_mem_singleton.mpr
      (.mapping (by decide) (List.forall_mem_singleton.mpr .text)))
  have hcontainers : (Value.list [.record [("image", .text "web")],
      .record [("name", .text "proxy")], .record [("name", .text "db"),
        ("ports", .list [.record [("hostPort", .text "x")]])]]).IsJson := by
    refine .list ?_
    simp only [List.forall_mem_cons, List.not_mem_nil, false_implies, implies_true, and_true]
    refine ⟨.mapping (by decide) (List.forall_mem_singleton.mpr .text),
      .mapping (by decide) (List.forall_mem_singleton.mpr .text), .mapping (by decide) ?_⟩
    simp only [List.forall_mem_cons, List.not_mem_nil, false_implies, implies_true, and_true]
    exact ⟨.text, hports⟩
  refine .mapping (by decide) ?_
  simp only [List.forall_mem_cons, List.not_mem_nil, false_implies, implies_true, and_true]
  refine ⟨.text, .bool, .mapping (by decide) (List.forall_mem_singleton.mpr .bool),
    .mapping (by decide) ?_⟩
  simp only [List.forall_mem_cons, List.not_mem_nil, false_implies, implies_true, and_true]
  exact ⟨.text, hcontainers⟩

theorem brokenPod_ports : Declared.pod.Holds (.mapping brokenPod)
    [.name "spec", .name "containers", .index 2, .name "ports"] (.list Declared.containerPort)
      (.list [.record [("hostPort", .text "x")]]) := by
  have hports : Declared.container.Holds (.record [("name", .text "db"),
      ("ports", .list [.record [("hostPort", .text "x")]])]) [.name "ports"]
        (.list Declared.containerPort) (.list [.record [("hostPort", .text "x")]]) :=
    .field (by repeat constructor) rfl .here
  have hspec : Declared.podSpec.Holds (brokenPod.get "spec")
      [.name "containers", .index 2, .name "ports"] (.list Declared.containerPort)
        (.list [.record [("hostPort", .text "x")]]) :=
    .field (by repeat constructor) rfl (.item rfl hports)
  exact .field (.there (.there (.there .here))) rfl hspec

/-- All five problems are reported; the one of the metadata alone in a pod with no other
defect; and all but the one of the port where that is mended. -/
theorem readDocument_brokenPod :
    (Value.mapping brokenPod).IsJson ∧ checkOutline (.mapping brokenPod) = .ok () ∧
      Itemized brokenPod ∧
      Reports (.mapping brokenPod) [
        ⟨[.name "apiVersion"], .notText⟩,
        ⟨[.name "metadata", .name "name"], .notText⟩,
        ⟨[.name "spec", .name "hostNetwork"], .unreadableBool⟩,
        ⟨[.name "spec", .name "containers", .index 0, .name "name"], .missing⟩,
        ⟨[.name "spec", .name "containers", .index 2, .name "ports", .index 0, .name "hostPort"],
          .unreadableInt⟩] ∧
      Entries.Sound [(.text "kind", .text "Pod")] ∧
      Reports (.mapping (Entries.graft [(.text "kind", .text "Pod")] ["metadata"] brokenPod))
        [⟨[.name "metadata", .name "name"], .notText⟩] ∧
      Declared.pod.Holds (.mapping brokenPod)
        [.name "spec", .name "containers", .index 2, .name "ports"] (.list Declared.containerPort)
          (.list [.record [("hostPort", .text "x")]]) ∧
      Reports ((Value.mapping brokenPod).putAt
        [.name "spec", .name "containers", .index 2, .name "ports"]
          (.list [.record [("hostPort", .text "80")]])) [
        ⟨[.name "apiVersion"], .notText⟩,
        ⟨[.name "metadata", .name "name"], .notText⟩,
        ⟨[.name "spec", .name "hostNetwork"], .unreadableBool⟩,
        ⟨[.name "spec", .name "containers", .index 0, .name "name"], .missing⟩] :=
  ⟨brokenPod_isJson, rfl, readDocument_itemized brokenPod_isJson rfl,
    .refused (List.cons_ne_nil _ _) rfl, ⟨_, rfl⟩, .refused (List.cons_ne_nil _ _) rfl,
    brokenPod_ports, .refused (List.cons_ne_nil _ _) rfl⟩

end PodPolicy
