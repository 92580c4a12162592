import PodPolicy.Proofs.Undeclared

/-!
# The spelling of fields

A field may be given in either of its spellings, and where both are given the first one
decides. A manifest is respelled by renaming fields to their other spelling, which is
not given beside them, and overridden by changing what stands under the other spelling
beside the first. `evaluate_respelled`: a pod and the respelled one are accepted both,
as the same pod and with the same outcome, or refused both with problems that correspond
one by one; an overridden pod is the same in all of this.
-/

namespace PodPolicy

open Workload

-- -----------------------------------------------------------------------------
-- Renaming an entry
-- -----------------------------------------------------------------------------

namespace Entries

variable {entries rest : Entries} {old new other name : String} {key v : Value}

def rename (entries : Entries) (old new : String) : Entries :=
  entries.map fun entry => if entry.1.isText old then (.text new, entry.2) else entry

@[simp]
theorem rename_cons_same :
    rename ((.text old, v) :: rest) old new = (.text new, v) :: rename rest old new := by
  simp [rename, Value.isText]

theorem rename_cons_other (h : key.isText old = false) :
    rename ((key, v) :: rest) old new = (key, v) :: rename rest old new := by
  simp [rename, h]

theorem get?_cons_key : Entries.get? ((key, v) :: rest) name =
    if key.isText name then some v else Entries.get? rest name := by
  cases h : key.isText name <;> simp [get?, h]

theorem get?_rename_new (h : entries.get? new = none) :
    (entries.rename old new).get? new = entries.get? old := by
  induction entries with
  | nil => rfl
  | cons entry rest ih =>
    obtain ⟨key, v⟩ := entry
    cases hnew : key.isText new with
    | true => simp [get?_cons_key, hnew] at h
    | false =>
      cases hold : key.isText old with
      | true =>
        obtain rfl := Value.isText_iff.mp hold
        simp
      | false =>
        simp only [get?_cons_key, hnew, Bool.false_eq_true, if_false] at h
        simp [rename_cons_other hold, get?_cons_key, hnew, hold, ih h]

theorem get?_rename_old (entries : Entries) (hne : old ≠ new) :
    (entries.rename old new).get? old = none := by
  induction entries with
  | nil => rfl
  | cons entry rest ih =>
    obtain ⟨key, v⟩ := entry
    cases hold : key.isText old with
    | true =>
      obtain rfl := Value.isText_iff.mp hold
      simp [hne.symm, ih]
    | false => simp [rename_cons_other hold, get?_cons_key, hold, ih]

theorem get?_rename_other (hold : other ≠ old) (hnew : other ≠ new) :
    (entries.rename old new).get? other = entries.get? other := by
  induction entries with
  | nil => rfl
  | cons entry rest ih =>
    obtain ⟨key, v⟩ := entry
    cases hkey : key.isText old with
    | true =>
      obtain rfl := Value.isText_iff.mp hkey
      simp [hold.symm, hnew.symm, ih]
    | false => simp [rename_cons_other hkey, get?_cons_key, ih]

theorem strange_rename : (entries.rename old new).strange = entries.strange := by
  induction entries with
  | nil => rfl
  | cons entry rest ih =>
    obtain ⟨key, v⟩ := entry
    cases hkey : key.isText old with
    | true =>
      obtain rfl := Value.isText_iff.mp hkey
      simpa [strange, Value.isName] using ih
    | false => cases hname : key.isName <;> simpa [strange, rename_cons_other hkey, hname] using ih

end Entries

-- -----------------------------------------------------------------------------
-- Other spellings in a mapping
-- -----------------------------------------------------------------------------

inductive Fields.Overrides (fields : Fields) (entries changed : Entries) : Prop
  | beside {field : Field} {schema : Schema} (hfield : fields.Has field schema)
      (hne : field.spelling ≠ field.key) (hgiven : entries.has field.key = true)
      (hsame : changed.erase field.spelling = entries.erase field.spelling)

/-- The mapping with a field in its other spelling, which is not given, or overridden. -/
inductive Fields.Respells (fields : Fields) (entries changed : Entries) : Prop
  | renamed {field : Field} {schema : Schema} (old new : String)
      (hfield : fields.Has field schema) (hold : old ∈ field.names) (hnew : new ∈ field.names)
      (hne : old ≠ new) (hfree : entries.get? new = none)
      (hrename : entries.rename old new = changed)
  | overridden (h : fields.Overrides entries changed)

section
variable {l : Latitude} {field : Field} {fields : Fields} {entries changed : Entries}
  {name old new : String}

theorem Field.given?_only (hold : old ∈ field.names) (hnew : new ∈ field.names) (hne : old ≠ new)
    (hnone : entries.get? new = none) :
    field.given? entries = (entries.get? old).map (old, ·) := by
  simp only [names, List.mem_cons, List.not_mem_nil, or_false] at hold hnew
  rcases hold with rfl | rfl
  · obtain rfl := hnew.resolve_left hne.symm
    rw [given?, hnone]
    cases entries.get? field.key <;> rfl
  · obtain rfl := hnew.resolve_right hne.symm
    rw [given?, hnone]

theorem Field.given?_key {v : Value} (h : entries.get? field.key = some v) :
    field.given? entries = some (field.key, v) := by
  rw [given?, h]

theorem Fields.Overrides.alike (htolerant : fields.isTolerant = true)
    (h : fields.Overrides entries changed) :
    (Schema.record name fields).Alike l (.mapping entries) (.mapping changed) := by
  obtain @⟨field, _, hfield, hne, hgiven, hsame⟩ := h
  have hother {other : String} (hother : other ≠ field.spelling) :
      entries.get? other = changed.get? other := by
    rw [← Entries.get?_erase_other hother, ← hsame, Entries.get?_erase_other hother]
  have hstrange := congrArg Entries.strange hsame
  rw [Entries.strange_erase, Entries.strange_erase] at hstrange
  refine .of_fields hstrange.symm fun field' schema' hhas => .of_eq ?_
  rcases hfield.same_or_apart hhas htolerant with ⟨rfl, rfl⟩ | hapart
  · obtain ⟨v, hv⟩ := Option.isSome_iff_exists.mp hgiven
    rw [Field.given?_key hv, Field.given?_key (hother hne.symm ▸ hv)]
  · refine Field.given?_congr fun given hgiven => hother ?_
    rintro rfl
    exact hapart _ hgiven (by simp [Field.names])

theorem Fields.Respells.alike (hl : l.spellings = true) (htolerant : fields.isTolerant = true)
    (h : fields.Respells entries changed) :
    (Schema.record name fields).Alike l (.mapping entries) (.mapping changed) := by
  cases h with
  | overridden h => exact h.alike htolerant
  | @renamed field _ old new hfield hold hnew hne hfree hrename =>
    subst hrename
    refine .of_fields Entries.strange_rename.symm fun field' schema' hhas => ?_
    rcases hfield.same_or_apart hhas htolerant with ⟨rfl, rfl⟩ | hapart
    · have hbefore := Field.given?_only hold hnew hne hfree
      have hafter := Field.given?_only hnew hold hne.symm (entries.get?_rename_old hne)
      rw [Entries.get?_rename_new hfree] at hafter
      cases hvalue : entries.get? old with
      | none => exact .absent (by rw [hbefore, hvalue]; rfl) (by rw [hafter, hvalue]; rfl)
      | some v =>
        rw [hvalue] at hbefore hafter
        exact .given hbefore hafter (.inl hl) (.refl _ v)
    · refine .of_eq (Field.given?_congr fun given hgiven => ?_)
      have hother {name : String} (hname : name ∈ field.names) : given ≠ name := by
        rintro rfl
        exact hapart _ hgiven hname
      exact (Entries.get?_rename_other (hother hold) (hother hnew)).symm

end

-- -----------------------------------------------------------------------------
-- Other spellings at any depth
-- -----------------------------------------------------------------------------

/-- A value, and the same value with one mapping in it changed, that of a record. -/
inductive Schema.Edits (E : Fields → Entries → Entries → Prop) : Schema → Value → Value → Prop
  | here {name : String} {fields : Fields} {entries changed : Entries}
      (h : E fields entries changed) :
      Edits E (.record name fields) (.mapping entries) (.mapping changed)
  | within {name : String} {fields : Fields} {field : Field} {schema : Schema}
      {entries changed : Entries} {spelling : String} {v w : Value}
      (hfield : fields.Has field schema) (hgiven : field.given? entries = some (spelling, v))
      (h : Edits E schema v w) (hput : entries.put (.text spelling) w = changed) :
      Edits E (.record name fields) (.mapping entries) (.mapping changed)
  | item {schema : Schema} (before after : List Value) {v w : Value} (h : Edits E schema v w) :
      Edits E (.list schema) (.list (before ++ v :: after)) (.list (before ++ w :: after))

section
variable {l : Latitude} {E : Fields → Entries → Entries → Prop} {s : Schema} {v w : Value}

theorem Schema.Edits.alike
    (hE : ∀ name fields entries changed, fields.isTolerant = true → E fields entries changed →
      (Schema.record name fields).Alike l (.mapping entries) (.mapping changed))
    (htolerant : s.isTolerant = true) (h : s.Edits E v w) : s.Alike l v w := by
  induction h with
  | here h => exact hE _ _ _ _ htolerant h
  | within hfield hgiven _ hput ih =>
    exact .put_field htolerant hfield hgiven (ih (hfield.tolerant htolerant).1) hput
  | item before after _ ih => exact .put_item before after (ih htolerant)

theorem Schema.alike_of_edits
    (hE : ∀ name fields entries changed, fields.isTolerant = true → E fields entries changed →
      (Schema.record name fields).Alike l (.mapping entries) (.mapping changed))
    (htolerant : s.isTolerant = true) (h : Relation.ReflTransGen (s.Edits E) v w) :
    s.Alike l v w := by
  induction h with
  | refl => exact .refl s v
  | tail _ hedit ih => exact ih.trans s (hedit.alike hE htolerant)

end

-- -----------------------------------------------------------------------------
-- Readings
-- -----------------------------------------------------------------------------

/-- Two documents are accepted, as the same pod and with the same outcome, or refused,
with errors that correspond but for spellings and are all that an evaluation gives. -/
inductive SameButForSpelling (v w : Value) : Prop
  | accepted {d d' : Document} (hread : readDocument v = .ok d) (hread' : readDocument w = .ok d')
      (hpod : d.pod = d'.pod) (houtcome : ∀ e : Engine, e.evaluate v = e.evaluate w)
  | refused {s s' : ShapeError} (hread : readDocument v = .error s)
      (hread' : readDocument w = .error s') (hsame : s.Corresponds .ofSpellings v w s')
      (houtcome : ∀ e : Engine,
        e.evaluate v = .error (.shape s) ∧ e.evaluate w = .error (.shape s'))

section
variable {v w : Value} {entries : Entries}

theorem readPod_itself (hkind : entries.get "kind" = .text "Pod") :
    readPod (.mapping entries) = ((readDocument (.mapping entries)).map Document.pod).map some := by
  have hextract : extractPod (.mapping entries) = .ok (some (.mapping entries)) :=
    extractPod_some.mpr ⟨"Pod", ⟨hkind, by decide⟩, .inl ⟨rfl, rfl⟩⟩
  rw [readPod_extracted, hextract]
  rfl

theorem kind_of_alike {l : Latitude} (hkind : entries.get "kind" = .text "Pod")
    (h : Declared.pod.Alike l (.mapping entries) w) :
    ∃ changed : Entries, w = .mapping changed ∧ changed.get "kind" = .text "Pod" := by
  rcases h.mappings with rfl | ⟨_, changed, ⟨⟩, rfl⟩
  · exact ⟨entries, rfl, hkind⟩
  · have hsame : entries.get "kind" = Entries.get changed "kind" := (h.get .here).text
    exact ⟨changed, rfl, hsame ▸ hkind⟩

theorem sameButForSpelling_of_alike (hkind : entries.get "kind" = .text "Pod")
    (h : Declared.pod.Alike .ofSpellings (.mapping entries) w) :
    SameButForSpelling (.mapping entries) w := by
  obtain ⟨changed, rfl, hkind'⟩ := kind_of_alike hkind h
  have hpod := readPod_itself hkind
  have hpod' := readPod_itself hkind'
  have hreadings := readDocument_alike h
  generalize hread : (readDocument (.mapping entries)).map Document.pod = found at hreadings hpod
  generalize hread' : (readDocument (.mapping changed)).map Document.pod = found' at hreadings hpod'
  cases hreadings with
  | refused hsame =>
    exact .refused (map_error.mp hread) (map_error.mp hread') hsame fun e =>
      ⟨evaluate_error hpod, evaluate_error hpod'⟩
  | read hmasked =>
    rw [Latitude.keep_all rfl, Pod.masked_id, Pod.masked_id] at hmasked
    obtain ⟨d, hd, rfl⟩ := map_ok.mp hread
    obtain ⟨d', hd', rfl⟩ := map_ok.mp hread'
    refine .accepted hd hd' hmasked fun e => ?_
    rw [evaluate_some hpod, evaluate_some hpod', hmasked]

theorem readDocument_narrow (h : Declared.pod.Alike .narrow v w) :
    (readDocument w).map Document.pod = (readDocument v).map Document.pod := by
  have hsame := (readDocument_alike h).parallel rfl
  rw [Latitude.keep_all rfl] at hsame
  generalize (readDocument v).map Document.pod = found at hsame ⊢
  generalize (readDocument w).map Document.pod = found' at hsame ⊢
  cases hsame with
  | error s => rfl
  | ok hmasked =>
    rw [Pod.masked_id, Pod.masked_id] at hmasked
    rw [hmasked]

/-- However its fields are spelled, a pod is read as the same pod or refused for the same
problems, and what stands under the second spelling beside the first has no say. -/
theorem evaluate_respelled (hkind : entries.get "kind" = .text "Pod") :
    (∀ w, Relation.ReflTransGen (Declared.pod.Edits Fields.Respells) (.mapping entries) w →
      SameButForSpelling (.mapping entries) w) ∧
    ∀ w, Relation.ReflTransGen (Declared.pod.Edits Fields.Overrides) (.mapping entries) w →
      (readDocument w).map Document.pod = (readDocument (.mapping entries)).map Document.pod ∧
        ∀ e : Engine, e.evaluate w = e.evaluate (.mapping entries) := by
  constructor
  · intro w h
    have halike : Declared.pod.Alike .ofSpellings (.mapping entries) w :=
      Schema.alike_of_edits (fun _ _ _ _ htolerant h => h.alike rfl htolerant)
        Declared.pod_isTolerant h
    exact sameButForSpelling_of_alike hkind halike
  · intro w h
    have halike : Declared.pod.Alike .narrow (.mapping entries) w :=
      Schema.alike_of_edits (fun _ _ _ _ htolerant h => h.alike htolerant)
        Declared.pod_isTolerant h
    obtain ⟨changed, rfl, hkind'⟩ := kind_of_alike hkind halike
    have hsame := readDocument_narrow halike
    refine ⟨hsame, fun e => ?_⟩
    rw [Engine.evaluate, Engine.evaluate, readPod_itself hkind, readPod_itself hkind', hsame]

end

def spelledPod (more inner : List (String × Value)) : Entries :=
  Entries.ofNames [("kind", .text "Pod"), ("spec", .record <| more ++
    [("containers", .list [.record <| ("name", .text "web") :: inner])])]

theorem spelledPod_flag (v : Value) (inner : List (String × Value)) :
    Declared.pod.Edits Fields.Respells (.mapping (spelledPod [("hostPID", v)] inner))
      (.mapping (spelledPod [("host_pid", v)] inner)) := by
  refine .within (.there (.there (.there .here))) rfl (.here ?_) rfl
  exact .renamed "hostPID" "host_pid" (.there .here) (by decide) (by decide) (by decide) rfl rfl

theorem spelledPod_container {v : Value} {inner inner' : List (String × Value)}
    (h : Declared.container.Edits Fields.Respells (.record <| ("name", .text "web") :: inner)
      (.record <| ("name", .text "web") :: inner')) :
    Declared.pod.Edits Fields.Respells (.mapping (spelledPod [("hostPID", v)] inner))
      (.mapping (spelledPod [("hostPID", v)] inner')) := by
  have hcontainers : (Schema.list Declared.container).Edits Fields.Respells
      (.list [.record <| ("name", .text "web") :: inner])
      (.list [.record <| ("name", .text "web") :: inner']) := .item [] [] h
  refine .within (.there (.there (.there .here))) rfl ?_ rfl
  exact .within (by repeat constructor) rfl hcontainers rfl

theorem evaluate_respelledPods :
    let root : Value := .record [("runAsUser", .int 0)]
    let root' : Value := .record [("run_as_user", .int 0)]
    let flagged : Value := .mapping (spelledPod [("host_pid", .bool true)]
      [("security_context", root')])
    let refused : Value := .mapping (spelledPod [("host_pid", .text "maybe")] [])
    (SameButForSpelling (.mapping (spelledPod [("hostPID", .bool true)] [("securityContext", root)]))
        flagged ∧
      ∃ d, readDocument flagged = .ok d ∧ d.pod.spec.hostPid = some true) ∧
    (SameButForSpelling (.mapping (spelledPod [("hostPID", .text "maybe")] [])) refused ∧
      readDocument refused =
        .error (.mismatch [⟨[.name "spec", .name "host_pid"], .unreadableBool⟩])) ∧
    evaluate (.mapping (spelledPod [("hostPID", .bool true), ("host_pid", .bool false)] [])) =
      evaluate (.mapping (spelledPod [("hostPID", .bool true)] [])) := by
  intro root root' flagged refused
  have huser : Declared.securityContext.Edits Fields.Respells root root' :=
    .here (.renamed "runAsUser" "run_as_user" (.there .here) (by decide) (by decide) (by decide)
      rfl rfl)
  have hinner : Declared.container.Edits Fields.Respells
      (.record [("name", .text "web"), ("securityContext", root)])
      (.record [("name", .text "web"), ("securityContext", root')]) :=
    .within (.there (.there (.there .here))) rfl huser rfl
  have hcontext : Declared.container.Edits Fields.Respells
      (.record [("name", .text "web"), ("securityContext", root')])
      (.record [("name", .text "web"), ("security_context", root')]) :=
    .here (.renamed "securityContext" "security_context" (.there (.there (.there .here)))
      (by decide) (by decide) (by decide) rfl rfl)
  have hbeside : Declared.pod.Edits Fields.Overrides
      (.mapping (spelledPod [("hostPID", .bool true)] []))
      (.mapping (spelledPod [("hostPID", .bool true), ("host_pid", .bool false)] [])) := by
    refine .within (.there (.there (.there .here))) rfl (.here ?_) rfl
    exact .beside (.there .here) (by decide) rfl rfl
  refine ⟨⟨(evaluate_respelled rfl).1 _ ?_, _, rfl, rfl⟩,
    ⟨(evaluate_respelled rfl).1 _ (.single (spelledPod_flag _ _)), rfl⟩,
    ((evaluate_respelled rfl).2 _ (.single hbeside)).2 _⟩
  exact .tail (.tail (.single (spelledPod_container hinner)) (spelledPod_container hcontext))
    (spelledPod_flag _ _)

end PodPolicy
