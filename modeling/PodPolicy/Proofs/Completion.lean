import PodPolicy.Proofs.Template

/-!
# Manifests with other metadata

Two manifests that differ in their metadata only. `readPod_same`: they lead to the
same pod if the metadata of one is empty and that of the other absent or null.
`readPod_moved`: if they differ in the namespace and the one leads to a pod, so does
the other, where its own namespace and that of its template can be read. So a
namespace that is filled in mends no manifest but those with an unreadable one.
-/

namespace PodPolicy

open Workload

def Value.IsNamespace (v : Value) : Prop :=
  ∃ ns, v.readOptional Schema.text.check = .ok ns

/-- A mapping that is the same but for what stands under one name. -/
structure Entries.AgreesBut (name : String) (entries changed : Entries) : Prop where
  get? : ∀ other, other ≠ name → changed.get? other = entries.get? other
  textKeyed : changed.TextKeyed → entries.TextKeyed

/-- The metadata is null or a mapping, and the namespaces from which a pod has
its own are null or texts. -/
structure Entries.ReadableNamespaces (entries : Entries) : Prop where
  metadata : ∃ metadata : Entries,
    (entries.get "metadata").collapse (.mapping []) = .mapping metadata ∧
      (metadata.get "namespace").IsNamespace
  template : ∀ kind place v, entries.get "kind" = .text kind →
    TemplatePlace.ofKind? kind = some place →
      (Value.mapping entries).at? (place.keys ++ ["metadata", "namespace"]) = some v →
        v.IsNamespace

variable {name : String} {v w : Value} {entries changed : Entries}

theorem Value.orElse_isNamespace (hv : v.IsNamespace) (hw : w.IsNamespace) :
    (v.orElse w).IsNamespace := by
  unfold Value.orElse
  split
  · exact hw
  · exact hv

-- -----------------------------------------------------------------------------
-- Mappings that agree
-- -----------------------------------------------------------------------------

namespace Entries

theorem textKeyed_of_put (h : (entries.put (.text name) v).TextKeyed) : entries.TextKeyed := by
  induction entries with
  | nil => simp [TextKeyed]
  | cons entry rest ih =>
    obtain ⟨key, w⟩ := entry
    simp only [put] at ih h
    unfold Keyed.put at h
    simp only [TextKeyed, List.forall_mem_cons] at ih ⊢
    split at h
    · simpa [TextKeyed] using h
    · simp only [TextKeyed, List.forall_mem_cons] at h
      exact ⟨h.1, ih h.2⟩

theorem textKeyed_put (h : entries.TextKeyed) : (entries.put (.text name) v).TextKeyed := by
  have hpairs : ∀ entry ∈ entries, (∃ key, entry.1 = .text key) ∧ True :=
    fun entry hentry => ⟨h entry hentry, trivial⟩
  intro entry hentry
  exact (put_all (P := fun key => ∃ s, key = .text s) (Q := fun _ => True) hpairs ⟨name, rfl⟩
    trivial entry hentry).1

namespace AgreesBut

theorem refl : AgreesBut name entries entries :=
  ⟨fun _ _ => rfl, fun h => h⟩

theorem put : AgreesBut name entries (entries.put (.text name) v) :=
  ⟨fun _ hother => get?_put_other hother, textKeyed_of_put⟩

theorem of_put : AgreesBut name (entries.put (.text name) v) entries :=
  ⟨fun _ hother => (get?_put_other hother).symm, textKeyed_put⟩

theorem get {other : String} (h : AgreesBut name entries changed) (hother : other ≠ name) :
    changed.get other = entries.get other := by
  rw [Entries.get, Entries.get, h.get? other hother]

end AgreesBut

end Entries

theorem Field.check_agree {α : Type} {field : Field} {check : Value → Checked α} {empty : Value}
    (h : Entries.AgreesBut name entries changed) (hkey : field.key ≠ name)
    (hspelling : field.spelling ≠ name) :
    field.check check empty changed = field.check check empty entries := by
  simp only [Field.check, Field.given?, h.get? _ hkey, h.get? _ hspelling]

-- -----------------------------------------------------------------------------
-- Documents that agree
-- -----------------------------------------------------------------------------

theorem metadata_agree (h : Entries.AgreesBut "namespace" entries changed)
    (hnamespace : (entries.get "namespace").IsNamespace)
    (hchanged : ∃ form, Declared.metadata.check (.mapping changed) = .ok form) :
    ∃ form, Declared.metadata.check (.mapping entries) = .ok form := by
  obtain ⟨form, hform⟩ := hchanged
  obtain ⟨hname, -, hlabels, hannotations, hkeys⟩ := metadata_ok.mp ⟨form, hform, rfl⟩
  obtain ⟨ns, hns⟩ := hnamespace
  rw [h.get (by simp)] at hname hlabels hannotations
  have hread : ∃ form', Declared.metadata.check (.mapping entries) = .ok form' ∧
      Metadata.ofForm form' = { Metadata.ofForm form with namespaceName := ns } :=
    metadata_ok.mpr ⟨hname, hns, hlabels, hannotations, h.textKeyed hkeys⟩
  obtain ⟨form', hform', -⟩ := hread
  exact ⟨form', hform'⟩

theorem readDocument_metadata {document : Document}
    (h : readDocument (.mapping entries) = .ok document) :
    ∃ form, Declared.metadata.check ((entries.get "metadata").collapse (.mapping [])) = .ok form ∧
      document.pod.metadata = Metadata.ofForm form := by
  obtain ⟨_, -, hmatch⟩ := bind_ok.mp h
  obtain ⟨_, form, _, hmetadata, -, -, -, hform, -⟩ := pod_parts hmatch
  exact ⟨form, hform, hmetadata⟩

theorem readDocument_agree {document : Document} {form : Declared.metadata.Form}
    (h : Entries.AgreesBut "metadata" entries changed)
    (hform : Declared.metadata.check ((entries.get "metadata").collapse (.mapping [])) = .ok form)
    (hchanged : readDocument (.mapping changed) = .ok document) :
    ∃ own, readDocument (.mapping entries) = .ok own ∧
      own.pod = { document.pod with metadata := Metadata.ofForm form } := by
  have hempty : Declared.metadata.check (.mapping []) = .ok ((none, none, none, none, ()), []) :=
    rfl
  obtain ⟨⟨⟨kind, apiVersion, metadata, spec, ⟨⟩⟩, extras⟩⟩ := document
  obtain ⟨_, houtline, hmatch⟩ := bind_ok.mp hchanged
  simp only [checkOutline, kindOf, h.get (by simp : "kind" ≠ "metadata"),
    h.get (by simp : "spec" ≠ "metadata")] at houtline
  simp only [matchDeclared_ok, Declared.pod, Schema.check, Fields.check, Checked.both_ok] at hmatch
  obtain ⟨⟨hkind, hversion, -, hspec, -⟩, hextras⟩ := hmatch
  obtain ⟨slot, hslot, rfl⟩ := (Field.collapsing_ok hempty).mpr hform
  obtain ⟨more, hmore⟩ := checkExtras_ok.mpr (h.textKeyed (checkExtras_ok.mp ⟨extras, hextras⟩))
  rw [Field.check_agree h (by simp) (by simp)] at hkind hversion hspec
  refine ⟨⟨((kind, apiVersion, slot, spec, ()), more)⟩,
    bind_ok.mpr ⟨(), houtline, matchDeclared_ok.mpr ?_⟩, ?_⟩
  · simp only [Declared.pod, Schema.check, Fields.check, Checked.both_ok]
    exact ⟨⟨hkind, hversion, hslot, hspec, trivial⟩, hmore⟩
  · cases slot <;> rfl

-- -----------------------------------------------------------------------------
-- Templates
-- -----------------------------------------------------------------------------

variable {template templateMetadata spec : Entries} {path : String} {place : TemplatePlace}

theorem lift_agree (h : Entries.AgreesBut "namespace" entries changed)
    (hnamespace : (entries.get "namespace").IsNamespace)
    (htemplate : (templateMetadata.get "namespace").IsNamespace)
    (hchanged : ∃ document, readDocument (lift changed template templateMetadata) = .ok document) :
    ∃ document, readDocument (lift entries template templateMetadata) = .ok document := by
  have hname : changed.get "name" = entries.get "name" := h.get (by simp)
  obtain ⟨document, hdocument⟩ := hchanged
  obtain ⟨_, hmetadata, -⟩ := readDocument_metadata hdocument
  have hcheck : ∃ form, Declared.metadata.check (.record [("name", entries.get "name"),
      ("namespace", (entries.get "namespace").orElse (templateMetadata.get "namespace")),
      ("labels", (templateMetadata.get "labels").orElse (.mapping [])),
      ("annotations", (templateMetadata.get "annotations").orElse (.mapping []))]) = .ok form := by
    refine metadata_agree ⟨?_, fun _ => by simp [Entries.TextKeyed]⟩
      (Value.orElse_isNamespace hnamespace htemplate) ⟨_, hmetadata⟩
    intro other hother
    simp [hother.symm, hname]
  obtain ⟨form, hform⟩ := hcheck
  suffices hread : ∃ own, readDocument (lift entries template templateMetadata) = .ok own ∧
      own.pod = { document.pod with metadata := Metadata.ofForm form } from
    hread.imp fun _ hown => hown.1
  refine readDocument_agree ⟨?_, fun _ => by simp [Entries.TextKeyed]⟩ hform hdocument
  intro other hother
  simp [hother.symm]

theorem asMapping_found (h : asMapping path v = .ok entries) (hfound : entries.get? name = some w) :
    v = .mapping entries := by
  cases v with
  | null =>
    cases h
    cases hfound
  | mapping found =>
    cases h
    rfl
  | _ => cases h

theorem asMapping_at? {part : Entries} {keys : List String}
    (h : asMapping path (entries.get name) = .ok part) {next : String}
    (hfound : part.get? next = some w) :
    (Value.mapping entries).at? (name :: keys) = (Value.mapping part).at? keys :=
  Entries.at?_get (asMapping_found h hfound) nofun

theorem at?_templateIn (hspec : asMapping path (entries.get "spec") = .ok spec)
    (h : templateIn spec place = .ok (.mapping template)) :
    (Value.mapping entries).at? place.keys = some (.mapping template) := by
  cases place with
  | direct =>
    have hget : spec.get "template" = .mapping template := Except.ok.inj h
    have hfound := Entries.get?_of_get hget nofun
    rw [TemplatePlace.keys, asMapping_at? hspec hfound, Entries.at?_get hget nofun, Value.at?_nil]
  | ofJob =>
    simp only [templateIn, bind_ok, pure_ok] at h
    obtain ⟨job, hjob, jobSpec, hjobSpec, hget⟩ := h
    have hfound := Entries.get?_of_get hget nofun
    have hfoundSpec := Entries.get?_of_get (asMapping_found hjobSpec hfound) nofun
    have hfoundJob := Entries.get?_of_get (asMapping_found hjob hfoundSpec) nofun
    rw [TemplatePlace.keys, asMapping_at? hspec hfoundJob, asMapping_at? hjob hfoundSpec,
      asMapping_at? hjobSpec hfound, Entries.at?_get hget nofun, Value.at?_nil]

theorem template_isNamespace (hreadable : entries.ReadableNamespaces) {kind : String}
    (hkind : entries.get "kind" = .text kind) (hplace : TemplatePlace.ofKind? kind = some place)
    (hspec : asMapping path (entries.get "spec") = .ok spec)
    (htemplate : templateIn spec place = .ok (.mapping template)) {metadataPath : String}
    (hmetadata : asMapping metadataPath (template.get "metadata") = .ok templateMetadata) :
    (templateMetadata.get "namespace").IsNamespace := by
  cases hfound : templateMetadata.get? "namespace" with
  | none =>
    rw [Entries.get, hfound]
    exact ⟨none, rfl⟩
  | some v =>
    rw [Entries.get_of_get? hfound]
    refine hreadable.template kind place v hkind hplace ?_
    rw [Value.at?_append, at?_templateIn hspec htemplate, Option.bind_some,
      asMapping_at? hmetadata hfound, Value.at?, hfound, Option.bind_some, Value.at?_nil]

-- -----------------------------------------------------------------------------
-- Manifests with the same metadata
-- -----------------------------------------------------------------------------

section
variable {found : Option Pod} (h : Entries.AgreesBut "metadata" entries changed)
  (hmetadata : (entries.get "metadata").collapse (.mapping []) =
    (changed.get "metadata").collapse (.mapping []))
include h hmetadata

theorem readDocument_same {document : Document}
    (hchanged : readDocument (.mapping changed) = .ok document) :
    ∃ own, readDocument (.mapping entries) = .ok own ∧ own.pod = document.pod := by
  obtain ⟨form, hform, hpod⟩ := readDocument_metadata hchanged
  rw [← hmetadata] at hform
  obtain ⟨own, hown, hsame⟩ := readDocument_agree h hform hchanged
  exact ⟨own, hown, by rw [hsame, ← hpod]⟩

theorem podOfOther_same {kind : String} (hview : podOfOther kind changed = .ok v) :
    podOfOther kind entries = .ok v ∨
      v = .mapping changed ∧ podOfOther kind entries = .ok (.mapping entries) := by
  obtain ⟨spec, hspec, hview⟩ := podOfOther_ok.mp hview
  rw [h.get (by simp)] at hspec
  rcases hview with ⟨place, hplace, hview⟩ | ⟨hplace, hcontainers, rfl⟩
  · obtain ⟨template, owner, templateMetadata, htemplate, howner, htemplateMetadata, rfl⟩ :=
      podOfTemplate_ok.mp hview
    rw [asMapping_ok, ← hmetadata] at howner
    have hlift : podOfTemplate kind place entries spec =
        .ok (lift owner template templateMetadata) := podOfTemplate_ok.mpr
      ⟨template, owner, templateMetadata, htemplate, asMapping_ok.mpr howner, htemplateMetadata,
        rfl⟩
    exact .inl (podOfOther_ok.mpr ⟨spec, hspec, .inl ⟨place, hplace, hlift⟩⟩)
  · exact .inr ⟨rfl, podOfOther_ok.mpr ⟨spec, hspec, .inr ⟨hplace, hcontainers, rfl⟩⟩⟩

/-- Absent metadata, null and an empty mapping count alike: manifests that differ
in no more than that lead to the same pod. -/
theorem readPod_same (hchanged : readPod (.mapping changed) = .ok found) :
    readPod (.mapping entries) = .ok found := by
  have hkind : changed.get "kind" = entries.get "kind" := h.get (by simp)
  cases found with
  | none =>
    rw [readPod_none, extractPod_none, hkind] at hchanged
    rwa [readPod_none, extractPod_none]
  | some pod =>
    obtain ⟨view, document, hview, hdocument, rfl⟩ := readPod_some.mp hchanged
    obtain ⟨kind, hkindText, hview⟩ := extractPod_some.mp hview
    rw [hkind] at hkindText
    -- The pod is the manifest itself, or is made of parts that are the same.
    have hitself (hview : extractPod (.mapping entries) = .ok (some (.mapping entries)))
        (hdocument : readDocument (.mapping changed) = .ok document) :
        readPod (.mapping entries) = .ok (some document.pod) := by
      obtain ⟨own, hown, hsame⟩ := readDocument_same h hmetadata hdocument
      exact readPod_some.mpr ⟨_, own, hview, hown, hsame⟩
    rcases hview with ⟨hpod, rfl⟩ | ⟨hpod, hpodless, hview⟩
    · exact hitself (extractPod_some.mpr ⟨kind, hkindText, .inl ⟨hpod, rfl⟩⟩) hdocument
    · rcases podOfOther_same h hmetadata hview with hother | ⟨rfl, hother⟩
      · exact readPod_some.mpr ⟨view, document,
          extractPod_some.mpr ⟨kind, hkindText, .inr ⟨hpod, hpodless, hother⟩⟩, hdocument, rfl⟩
      · exact hitself (extractPod_some.mpr ⟨kind, hkindText, .inr ⟨hpod, hpodless, hother⟩⟩)
          hdocument

end

-- -----------------------------------------------------------------------------
-- Manifests that are moved
-- -----------------------------------------------------------------------------

/-- The manifest with another namespace in its metadata. -/
structure Entries.MovesTo (entries moved : Entries) : Prop where
  agrees : Entries.AgreesBut "metadata" entries moved
  metadata : ∃ own new : Entries, (entries.get "metadata").collapse (.mapping []) = .mapping own ∧
    moved.get "metadata" = .mapping new ∧ Entries.AgreesBut "namespace" own new

variable {moved : Entries} {kind : String}

theorem readDocument_moved (h : entries.MovesTo moved) (hreadable : entries.ReadableNamespaces)
    (hmoved : ∃ document, readDocument (.mapping moved) = .ok document) :
    ∃ document, readDocument (.mapping entries) = .ok document := by
  obtain ⟨own, new, hown, hnew, hagree⟩ := h.metadata
  obtain ⟨_, heq, hnamespace⟩ := hreadable.metadata
  cases hown.symm.trans heq
  obtain ⟨document, hdocument⟩ := hmoved
  obtain ⟨_, hmetadata, -⟩ := readDocument_metadata hdocument
  rw [hnew] at hmetadata
  obtain ⟨form, hform⟩ := metadata_agree hagree hnamespace ⟨_, hmetadata⟩
  rw [← hown] at hform
  obtain ⟨found, hfound, -⟩ := readDocument_agree h.agrees hform hdocument
  exact ⟨found, hfound⟩

theorem podOfOther_moved (h : entries.MovesTo moved) (hreadable : entries.ReadableNamespaces)
    (hkind : entries.get "kind" = .text kind) (hview : podOfOther kind moved = .ok v)
    (hdocument : ∃ document, readDocument v = .ok document) :
    ∃ view, podOfOther kind entries = .ok view ∧
      ∃ document, readDocument view = .ok document := by
  obtain ⟨spec, hspec, hview⟩ := podOfOther_ok.mp hview
  rw [h.agrees.get (by simp)] at hspec
  rcases hview with ⟨place, hplace, hview⟩ | ⟨hplace, hcontainers, rfl⟩
  · obtain ⟨template, owner, templateMetadata, htemplate, howner, hmetadata, rfl⟩ :=
      podOfTemplate_ok.mp hview
    obtain ⟨own, new, hown, hnew, hagree⟩ := h.metadata
    obtain ⟨_, heq, hnamespace⟩ := hreadable.metadata
    cases hown.symm.trans heq
    rw [hnew] at howner
    cases howner
    have htemplateNamespace : (templateMetadata.get "namespace").IsNamespace :=
      template_isNamespace hreadable hkind hplace hspec htemplate hmetadata
    have hlift : podOfTemplate kind place entries spec =
        .ok (lift own template templateMetadata) := podOfTemplate_ok.mpr
      ⟨template, own, templateMetadata, htemplate, asMapping_ok.mpr hown, hmetadata, rfl⟩
    exact ⟨_, podOfOther_ok.mpr ⟨spec, hspec, .inl ⟨place, hplace, hlift⟩⟩,
      lift_agree hagree hnamespace htemplateNamespace hdocument⟩
  · exact ⟨_, podOfOther_ok.mpr ⟨spec, hspec, .inr ⟨hplace, hcontainers, rfl⟩⟩,
      readDocument_moved h hreadable hdocument⟩

/-- A manifest that leads to a pod in another namespace leads to one in its own,
if that can be read. -/
theorem readPod_moved (h : entries.MovesTo moved) (hreadable : entries.ReadableNamespaces)
    (hmoved : ∃ found, readPod (.mapping moved) = .ok found) :
    ∃ found, readPod (.mapping entries) = .ok found := by
  obtain ⟨found, hextract, hdocument⟩ := readPod_ok.mp hmoved
  have hkind : moved.get "kind" = entries.get "kind" := h.agrees.get (by simp)
  rw [readPod_ok]
  cases found with
  | none =>
    rw [extractPod_none, hkind, ← extractPod_none] at hextract
    exact ⟨none, hextract, nofun⟩
  | some view =>
    obtain ⟨kind, hkindText, hview⟩ := extractPod_some.mp hextract
    rw [hkind] at hkindText
    rcases hview with ⟨hpod, rfl⟩ | ⟨hpod, hpodless, hview⟩
    · refine ⟨_, extractPod_some.mpr ⟨kind, hkindText, .inl ⟨hpod, rfl⟩⟩, ?_⟩
      rintro _ ⟨⟩
      exact readDocument_moved h hreadable (hdocument _ rfl)
    · obtain ⟨own, hown, hread⟩ :=
        podOfOther_moved h hreadable hkindText.1 hview (hdocument _ rfl)
      refine ⟨_, extractPod_some.mpr ⟨kind, hkindText, .inr ⟨hpod, hpodless, hown⟩⟩, ?_⟩
      rintro _ ⟨⟩
      exact hread

end PodPolicy
