import PodPolicy.Proofs.Metadata
import PodPolicy.Proofs.Undeclared

/-!
# Manifests in two namespaces

A manifest in the namespace `n`, and the same in `n'`. `readPod_relocated`: both are
refused alike, or lead to the same pod but for its namespace. The namespace may stand in
the metadata of the manifest, be that a pod or a controller whose template has none, or
be filled in for a request.
-/

namespace PodPolicy

open Workload

-- -----------------------------------------------------------------------------
-- Mappings in two namespaces
-- -----------------------------------------------------------------------------

structure Entries.SameBut (name : String) (entries changed : Entries) : Prop where
  get? : ∀ other, other ≠ name → changed.get? other = entries.get? other
  strange : changed.strange = entries.strange

def Value.ofNamespace (ns : Option String) : Value :=
  (ns.map .text).getD .null

/-- A value that names production where `n` does, and some other namespace or none where
`n` does not. -/
def Value.StandsFor (n : Option String) (v : Value) : Prop :=
  ∃ ns, v = .ofNamespace ns ∧ (ns = some "production" ↔ n = some "production")

def Value.IsUnplaced (v : Value) : Prop :=
  v = .null ∨ v = .text ""

def Pod.inNamespace (pod : Pod) (ns : Option String) : Pod :=
  { pod with metadata := { pod.metadata with namespaceName := ns } }

/-- A manifest in the namespace `n`, and the same in `n'`. -/
structure Entries.Relocates (n n' : Option String) (entries changed : Entries) : Prop where
  sameBut : Entries.SameBut "metadata" entries changed
  metadata : ∃ own own' : Entries,
    entries.get? "metadata" = some (.mapping own) ∧
      changed.get? "metadata" = some (.mapping own') ∧ Entries.SameBut "namespace" own own' ∧
        (own.get "namespace").StandsFor n ∧ (own'.get "namespace").StandsFor n'

/-- The same pod but for its namespace, which is production where `n` is, and where `n'` is. -/
structure Pod.Relocates (n n' : Option String) (pod pod' : Pod) : Prop where
  same : pod.inNamespace none = pod'.inNamespace none
  place : Catalog.inProduction pod = true ↔ n = some "production"
  place' : Catalog.inProduction pod' = true ↔ n' = some "production"

section
variable {name : String} {n n' : Option String} {v w : Value} {entries changed more : Entries}

namespace Entries

theorem textKeyed_iff : entries.TextKeyed ↔ entries.strange = [] := by
  simp only [strange, List.filter_eq_nil_iff, Bool.not_eq_true', Bool.not_eq_false]
  refine forall₂_congr fun entry _ => ?_
  cases entry.1 <;> simp [Value.isName]

namespace SameBut

theorem symm (h : SameBut name entries changed) : SameBut name changed entries :=
  ⟨fun other hother => (h.get? other hother).symm, h.strange.symm⟩

theorem trans (h : SameBut name entries changed) (h' : SameBut name changed more) :
    SameBut name entries more :=
  ⟨fun other hother => (h'.get? other hother).trans (h.get? other hother),
    h'.strange.trans h.strange⟩

theorem put : SameBut name entries (entries.put (.text name) v) :=
  ⟨fun _ hother => get?_put_other hother, strange_put⟩

theorem put_put : SameBut name (entries.put (.text name) v) (entries.put (.text name) w) :=
  put.symm.trans put

theorem agrees (h : SameBut name entries changed) : AgreesBut name entries changed :=
  ⟨h.get?, fun hkeys => textKeyed_iff.mpr (h.strange ▸ textKeyed_iff.mp hkeys)⟩

theorem get {other : String} (h : SameBut name entries changed) (hother : other ≠ name) :
    changed.get other = entries.get other :=
  h.agrees.get hother

end SameBut

theorem fillNamespace_sameBut {ns : Option String} :
    SameBut "namespace" entries (fillNamespace entries ns) := by
  refine ⟨fillNamespace_agrees.get?, ?_⟩
  unfold fillNamespace
  split
  · rfl
  · split
    · exact strange_put
    · rfl

end Entries

theorem Value.readOptional_ofNamespace {ns : Option String} :
    (Value.ofNamespace ns).readOptional Schema.text.check = .ok ns := by
  cases ns <;> rfl

theorem Value.StandsFor.isNamespace (h : v.StandsFor n) : v.IsNamespace := by
  obtain ⟨ns, rfl, -⟩ := h
  exact ⟨ns, readOptional_ofNamespace⟩

theorem Value.StandsFor.of_ofNamespace : (Value.ofNamespace n).StandsFor n :=
  ⟨n, rfl, Iff.rfl⟩

theorem Value.StandsFor.orElse (h : v.StandsFor n) (hw : w.IsUnplaced) :
    (v.orElse w).StandsFor n := by
  obtain ⟨ns, rfl, hplace⟩ := h
  have hother (hvoid : ns ≠ some "production") : w.StandsFor n := by
    rcases hw with rfl | rfl
    · exact ⟨none, rfl, by simpa [hvoid] using hplace⟩
    · exact ⟨some "", rfl, by simpa [hvoid] using hplace⟩
  unfold Value.orElse
  split
  · rename_i hvoid
    refine hother ?_
    rintro rfl
    revert hvoid
    decide
  · exact ⟨ns, rfl, hplace⟩

theorem fillNamespace_standsFor (h : (entries.get "namespace").IsUnplaced) :
    ((fillNamespace entries n).get "namespace").StandsFor n := by
  have hvoid : (entries.get "namespace").isVoid = true := by
    rcases h with h | h <;> rw [h] <;> rfl
  have hkept (hn : n ≠ some "production") : (entries.get "namespace").StandsFor n := by
    rcases h with h | h <;> rw [h]
    · exact ⟨none, rfl, by simp [hn]⟩
    · exact ⟨some "", rfl, by simp [hn]⟩
  rw [AdmissionRequest.fillNamespace_get]
  split
  · rename_i hfill
    cases n with
    | none => exact absurd rfl hfill.2.2
    | some ns => exact .of_ofNamespace
  · rename_i hfill
    refine hkept ?_
    rintro rfl
    exact hfill ⟨rfl, hvoid, by decide⟩

-- -----------------------------------------------------------------------------
-- Documents in two namespaces
-- -----------------------------------------------------------------------------

/-- The form of metadata without the namespace, and without what is not declared. -/
def Declared.displacedMetadata : Declared.metadata.Form → Declared.metadata.Form :=
  Prod.map (Prod.map id (Prod.map (fun _ => none) id)) fun _ => []

def Declared.displacedPod : Declared.pod.Form → Declared.pod.Form :=
  Prod.map (Prod.map id (Prod.map id (Prod.map (Option.map displacedMetadata) id))) fun _ => []

theorem Pod.ofForm_displaced (form : Declared.pod.Form) :
    ofForm (Declared.displacedPod form) = (ofForm form).inNamespace none := by
  obtain ⟨⟨kind, apiVersion, metadata, spec, ⟨⟩⟩, extras⟩ := form
  cases metadata <;> rfl

theorem Field.check_same_but {α β : Type} {field : Field} {check : Value → Checked α} {empty : Value}
    {f : field.presence.Slot α → β} (h : Entries.SameBut name entries changed)
    (hkey : field.key ≠ name) (hspelling : field.spelling ≠ name) :
    (field.check check empty entries).map f = (field.check check empty changed).map f := by
  rw [Field.check_agree h.agrees hkey hspelling]

theorem Fields.check_cons_congr {α β : Type} {field : Field} {schema : Schema} {rest : Fields}
    {f : field.presence.Slot schema.Form → α} {g : rest.Form → β}
    (hfield : (field.check schema.check schema.empty entries).map f =
      (field.check schema.check schema.empty changed).map f)
    (hrest : (rest.check entries).map g = (rest.check changed).map g) :
    ((Fields.cons field schema rest).check entries).map (Prod.map f g) =
      ((Fields.cons field schema rest).check changed).map (Prod.map f g) := by
  rw [Fields.check, Fields.check, Checked.map_both, Checked.map_both, hfield, hrest]

theorem Schema.check_record_congr {α β : Type} {fields : Fields} {f : fields.Form → α} {b : β}
    (hstrange : changed.strange = entries.strange)
    (hfields : (fields.check entries).map f = (fields.check changed).map f) :
    ((Schema.record name fields).check (.mapping entries)).map (Prod.map f fun _ => b) =
      ((Schema.record name fields).check (.mapping changed)).map (Prod.map f fun _ => b) := by
  rw [Schema.check, Schema.check, Checked.map_both, Checked.map_both, hfields,
    checkExtras_same hstrange.symm]

theorem metadata_relocated (h : Entries.SameBut "namespace" entries changed)
    (hnamespace : (entries.get "namespace").IsNamespace)
    (hnamespace' : (changed.get "namespace").IsNamespace) :
    (Declared.metadata.check (.mapping entries)).map Declared.displacedMetadata =
      (Declared.metadata.check (.mapping changed)).map Declared.displacedMetadata := by
  have hread {entries : Entries} (hnamespace : (entries.get "namespace").IsNamespace) :
      ((Field.mk "namespace" "namespace" .optional).check Schema.text.check Schema.text.empty
        entries).map (fun _ => (none : Presence.optional.Slot String)) = .ok none := by
    obtain ⟨ns, hns⟩ := hnamespace
    obtain ⟨slot, hslot, -⟩ := Field.optional_ok.mpr hns
    rw [hslot]
    rfl
  have hlast : ((Fields.collapsing "labels" (.dict .label) <|
      .collapsing "annotations" (.dict .label) .nil).check entries).map id =
      ((Fields.collapsing "labels" (.dict .label) <|
        .collapsing "annotations" (.dict .label) .nil).check changed).map id :=
    Fields.check_cons_congr (f := id) (g := id) (Field.check_same_but h (by simp) (by simp))
      (Fields.check_cons_congr (f := id) (g := id) (Field.check_same_but h (by simp) (by simp)) rfl)
  refine Schema.check_record_congr h.strange (Fields.check_cons_congr ?name
    (Fields.check_cons_congr ?place hlast))
  case name => exact Field.check_same_but h (by simp) (by simp)
  case place => exact (hread hnamespace).trans (hread hnamespace').symm

theorem Field.check_metadata {own : Entries}
    (h : entries.get? "metadata" = some (.mapping own)) :
    ((Field.mk "metadata" "metadata" .collapsing).check Declared.metadata.check (.mapping [])
      entries).map (Option.map Declared.displacedMetadata) =
    Checked.within (.name "metadata")
      (((Declared.metadata.check (.mapping own)).map Declared.displacedMetadata).map some) := by
  simp only [Field.check, Field.given?_single, h, Option.map_some, Presence.readGiven,
    Value.collapse]
  cases Declared.metadata.check (.mapping own) <;> rfl

theorem pod_relocated (h : entries.Relocates n n' changed) :
    (Declared.pod.check (.mapping entries)).map Declared.displacedPod =
      (Declared.pod.check (.mapping changed)).map Declared.displacedPod := by
  obtain ⟨own, own', hown, hown', hsame, hn, hn'⟩ := h.metadata
  refine Schema.check_record_congr h.sameBut.strange (Fields.check_cons_congr ?kind
    (Fields.check_cons_congr ?version (Fields.check_cons_congr ?metadata
      (Fields.check_cons_congr (f := id) (g := id) ?spec rfl))))
  case kind => exact Field.check_same_but h.sameBut (by simp) (by simp)
  case version => exact Field.check_same_but h.sameBut (by simp) (by simp)
  case metadata =>
    exact (Field.check_metadata hown).trans <| (Field.check_metadata hown').symm ▸
      congrArg (fun checked => Checked.within _ (Except.map some checked))
        (metadata_relocated hsame hn.isNamespace hn'.isNamespace)
  case spec => exact Field.check_same_but h.sameBut (by simp) (by simp)

theorem readDocument_place {own : Entries} {document : Document}
    (hown : entries.get? "metadata" = some (.mapping own))
    (hn : (own.get "namespace").StandsFor n) (h : readDocument (.mapping entries) = .ok document) :
    Catalog.inProduction document.pod = true ↔ n = some "production" := by
  obtain ⟨form, hform, hmetadata⟩ := readDocument_metadata h
  rw [Entries.get_of_get? hown] at hform
  obtain ⟨-, hread, -⟩ := metadata_ok.mp ⟨form, hform, rfl⟩
  obtain ⟨ns, hns, hplace⟩ := hn
  rw [hns, Value.readOptional_ofNamespace] at hread
  rw [← hplace, Catalog.inProduction, hmetadata, ← Except.ok.inj hread]
  exact beq_iff_eq

theorem checkOutline_relocated (h : entries.Relocates n n' changed) :
    checkOutline (.mapping entries) = checkOutline (.mapping changed) := by
  have hkind : changed.get "kind" = entries.get "kind" := h.sameBut.get (by simp)
  have hspec : changed.get "spec" = entries.get "spec" := h.sameBut.get (by simp)
  simp only [checkOutline, kindOf, hkind, hspec]

/-- A manifest in two namespaces is refused alike, or read as the same pod in each. -/
theorem readDocument_relocated (h : entries.Relocates n n' changed) :
    Parallel (Pod.Relocates n n') ((readDocument (.mapping entries)).map Document.pod)
      ((readDocument (.mapping changed)).map Document.pod) := by
  have hsame : ((readDocument (.mapping entries)).map Document.pod).map (·.inNamespace none) =
      ((readDocument (.mapping changed)).map Document.pod).map (·.inNamespace none) := by
    have hmatch (v : Value) : ((matchDeclared v).map Document.pod).map (·.inNamespace none) =
        (((Declared.pod.check v).map Declared.displacedPod).map Pod.ofForm).mapError .mismatch := by
      unfold matchDeclared
      cases Declared.pod.check v with
      | error problems => rfl
      | ok form => exact congrArg Except.ok (Pod.ofForm_displaced form).symm
    rw [readDocument, readDocument, ← checkOutline_relocated h]
    cases checkOutline (.mapping entries) with
    | error s => rfl
    | ok _ => exact (hmatch _).trans ((pod_relocated h) ▸ (hmatch _).symm)
  obtain ⟨own, own', hown, hown', -, hn, hn'⟩ := h.metadata
  cases hread : readDocument (.mapping entries) with
  | error s =>
    rw [hread] at hsame
    cases hread' : readDocument (.mapping changed) with
    | error s' =>
      rw [hread'] at hsame
      cases hsame
      exact .error s
    | ok document' =>
      rw [hread'] at hsame
      cases hsame
  | ok document =>
    rw [hread] at hsame
    cases hread' : readDocument (.mapping changed) with
    | error s' =>
      rw [hread'] at hsame
      cases hsame
    | ok document' =>
      rw [hread'] at hsame
      exact .ok ⟨Except.ok.inj hsame, readDocument_place hown hn hread,
        readDocument_place hown' hn' hread'⟩

-- -----------------------------------------------------------------------------
-- Workloads in two namespaces
-- -----------------------------------------------------------------------------

def Entries.TemplateUnplaced (entries : Entries) : Prop :=
  ∀ (kind : String) (place : TemplatePlace) (v : Value), entries.get "kind" = .text kind →
    kind ∈ place.kinds →
      (Value.mapping entries).at? (place.keys ++ ["metadata", "namespace"]) = some v → v.IsUnplaced

variable {own own' template templateMetadata spec : Entries} {kind path : String}
  {place : TemplatePlace}

theorem lift_relocated (h : Entries.SameBut "namespace" own own')
    (hn : (own.get "namespace").StandsFor n) (hn' : (own'.get "namespace").StandsFor n')
    (htemplate : (templateMetadata.get "namespace").IsUnplaced) :
    ∃ entries changed : Entries, lift own template templateMetadata = .mapping entries ∧
      lift own' template templateMetadata = .mapping changed ∧
        entries.Relocates n n' changed := by
  refine ⟨_, _, rfl, rfl, ⟨⟨fun other hother => ?_, rfl⟩, _, _, rfl, rfl,
    ⟨fun other hother => ?_, rfl⟩, hn.orElse htemplate, hn'.orElse htemplate⟩⟩
  · simp [hother.symm]
  · simp [hother.symm, h.get (by simp : "name" ≠ "namespace")]

theorem ofKind?_mem (h : TemplatePlace.ofKind? kind = some place) : kind ∈ place.kinds := by
  unfold TemplatePlace.ofKind? at h
  split at h
  · rename_i hmem
    cases h
    exact List.contains_iff_mem.mp hmem
  · split at h
    · rename_i hjob
      cases h
      exact List.mem_singleton.mpr hjob
    · cases h

theorem template_isUnplaced (hunplaced : entries.TemplateUnplaced)
    (hkind : entries.get "kind" = .text kind) (hplace : TemplatePlace.ofKind? kind = some place)
    (hspec : asMapping path (entries.get "spec") = .ok spec)
    (htemplate : templateIn spec place = .ok (.mapping template)) {metadataPath : String}
    (hmetadata : asMapping metadataPath (template.get "metadata") = .ok templateMetadata) :
    (templateMetadata.get "namespace").IsUnplaced := by
  cases hfound : templateMetadata.get? "namespace" with
  | none =>
    rw [Entries.get, hfound]
    exact .inl rfl
  | some v =>
    rw [Entries.get_of_get? hfound]
    refine hunplaced kind place v hkind (ofKind?_mem hplace) ?_
    rw [Value.at?_append, at?_templateIn hspec htemplate, Option.bind_some,
      asMapping_at? hmetadata hfound, Value.at?, hfound, Option.bind_some, Value.at?_nil]

def Value.Relocates (n n' : Option String) (v w : Value) : Prop :=
  ∃ entries changed : Entries, v = .mapping entries ∧ w = .mapping changed ∧
    entries.Relocates n n' changed

theorem podOfTemplate_relocated (h : entries.Relocates n n' changed)
    (hunplaced : entries.TemplateUnplaced) (hkind : entries.get "kind" = .text kind)
    (hplace : TemplatePlace.ofKind? kind = some place)
    (hspec : asMapping path (entries.get "spec") = .ok spec) :
    Parallel (Value.Relocates n n') (podOfTemplate kind place entries spec)
      (podOfTemplate kind place changed spec) := by
  obtain ⟨own, own', hown, hown', hsame, hn, hn'⟩ := h.metadata
  have hget {entries own : Entries} (hown : entries.get? "metadata" = some (.mapping own)) :
      asMapping "metadata" (entries.get "metadata") = .ok own := by
    rw [Entries.get_of_get? hown, asMapping]
  rw [podOfTemplate, podOfTemplate, hget hown, hget hown']
  cases htemplate : templateIn spec place with
  | error s => exact .error s
  | ok template =>
    cases template with
    | mapping template =>
      cases hmetadata : asMapping (place.path ++ ".metadata") (Entries.get template "metadata") with
      | error s =>
        show Parallel _ (asMapping _ _ >>= _) (asMapping _ _ >>= _)
        rw [hmetadata]
        exact .error s
      | ok templateMetadata =>
        show Parallel _ (asMapping _ _ >>= _) (asMapping _ _ >>= _)
        rw [hmetadata]
        exact .ok (lift_relocated hsame hn hn'
          (template_isUnplaced hunplaced hkind hplace hspec htemplate hmetadata))
    | _ => exact .error _

theorem podOfOther_relocated (h : entries.Relocates n n' changed)
    (hunplaced : entries.TemplateUnplaced) (hkind : entries.get "kind" = .text kind) :
    Parallel (Value.Relocates n n') (podOfOther kind entries) (podOfOther kind changed) := by
  have hspec : changed.get "spec" = entries.get "spec" := h.sameBut.get (by simp)
  rw [podOfOther, podOfOther, hspec]
  cases hmapping : asMapping "spec" (entries.get "spec") with
  | error s => exact .error s
  | ok spec =>
    cases hplace : TemplatePlace.ofKind? kind with
    | none =>
      show Parallel _ (if spec.has "containers" then pure _ else .error _)
        (if spec.has "containers" then pure _ else .error _)
      split
      · exact .ok ⟨entries, changed, rfl, rfl, h⟩
      · exact .error _
    | some place =>
      show Parallel _ (podOfTemplate kind place entries spec)
        (podOfTemplate kind place changed spec)
      exact podOfTemplate_relocated h hunplaced hkind hplace hmapping

theorem extractPod_relocated (h : entries.Relocates n n' changed)
    (hunplaced : entries.TemplateUnplaced) :
    Parallel (Option.Rel (Value.Relocates n n')) (extractPod (.mapping entries))
      (extractPod (.mapping changed)) := by
  have hget : changed.get "kind" = entries.get "kind" := h.sameBut.get (by simp)
  have hsame : kindOf changed = kindOf entries := by simp only [kindOf, hget]
  rw [extractPod_ofKind, extractPod_ofKind, hsame]
  cases hkind : kindOf entries with
  | error s => exact .error s
  | ok kind =>
    show Parallel _ (podOfKind kind entries) (podOfKind kind changed)
    unfold podOfKind
    split
    · exact .ok (.some ⟨entries, changed, rfl, rfl, h⟩)
    · split
      · exact .ok .none
      · exact (podOfOther_relocated h hunplaced (kindOf_ok.mp hkind).1).map fun _ _ => .some

theorem readPod_relocated (h : entries.Relocates n n' changed)
    (hunplaced : entries.TemplateUnplaced) :
    Parallel (Option.Rel (Pod.Relocates n n')) (readPod (.mapping entries))
      (readPod (.mapping changed)) := by
  rw [readPod_extracted, readPod_extracted]
  refine (extractPod_relocated h hunplaced).bind fun found found' hfound => ?_
  cases hfound with
  | none => exact .ok .none
  | some hview =>
    obtain ⟨view, view', rfl, rfl, hview⟩ := hview
    exact (readDocument_relocated hview).map fun _ _ => .some

end

end PodPolicy
