import PodPolicy.Proofs.Evaluation
import PodPolicy.Proofs.FieldLaws

/-!
# The parts of a pod that is read

Where a mapping is read as a pod, its metadata and its spec are what stands
under their keys. `metadata_ok` and `matchDeclared_ok` give the parts without
the slots of the declared shape.
-/

namespace PodPolicy

variable {entries : Entries}

theorem checkExtras_ok {taken : List String} :
    (∃ extras, checkExtras taken entries = .ok extras) ↔ entries.TextKeyed := by
  unfold Entries.TextKeyed
  induction entries with
  | nil => simp [checkExtras]
  | cons entry rest ih =>
    obtain ⟨key, value⟩ := entry
    rw [List.forall_mem_cons, ← ih]
    cases key with
    | text name =>
      simp only [checkExtras, Value.text.injEq, exists_eq', true_and]
      split
      · rfl
      · simp only [map_ok]
        grind
    | _ => simp [checkExtras, map_ok, Checked.both_ok, Checked.refuse, Checked.within]

theorem metadata_ok {metadata : Metadata} :
    (∃ form, Declared.metadata.check (.mapping entries) = .ok form ∧
      Metadata.ofForm form = metadata) ↔
    (entries.get "name").readOptional Schema.text.check = .ok metadata.name ∧
      (entries.get "namespace").readOptional Schema.text.check = .ok metadata.namespaceName ∧
      (Schema.dict .label).check ((entries.get "labels").collapse (.mapping [])) =
        .ok metadata.labels ∧
      (Schema.dict .label).check ((entries.get "annotations").collapse (.mapping [])) =
        .ok metadata.annotations ∧
      entries.TextKeyed := by
  have hempty : (Schema.dict .label).check (.mapping []) = .ok [] := rfl
  constructor
  · rintro ⟨⟨⟨name, namespaceName, labels, annotations, ⟨⟩⟩, extras⟩, hcheck, rfl⟩
    simp only [Declared.metadata, Schema.check, Fields.check, Checked.both_ok] at hcheck
    obtain ⟨⟨hname, hnamespace, hlabels, hannotations, -⟩, hextras⟩ := hcheck
    refine ⟨Field.optional_ok.mp ⟨name, hname, rfl⟩,
      Field.optional_ok.mp ⟨namespaceName, hnamespace, rfl⟩,
      (Field.collapsing_ok hempty).mp ⟨labels, hlabels, rfl⟩,
      (Field.collapsing_ok hempty).mp ⟨annotations, hannotations, rfl⟩,
      checkExtras_ok.mp ⟨extras, hextras⟩⟩
  · rintro ⟨hname, hnamespace, hlabels, hannotations, hkeys⟩
    obtain ⟨name, hname, hname'⟩ := Field.optional_ok.mpr hname
    obtain ⟨namespaceName, hnamespace, hnamespace'⟩ := Field.optional_ok.mpr hnamespace
    obtain ⟨labels, hlabels, hlabels'⟩ := (Field.collapsing_ok hempty).mpr hlabels
    obtain ⟨annotations, hannotations, hannotations'⟩ :=
      (Field.collapsing_ok hempty).mpr hannotations
    obtain ⟨extras, hextras⟩ := checkExtras_ok.mpr hkeys
    refine ⟨((name, namespaceName, labels, annotations, ()), extras), ?_, ?_⟩
    · simp only [Declared.metadata, Schema.check, Fields.check, Checked.both_ok]
      exact ⟨⟨hname, hnamespace, hlabels, hannotations, trivial⟩, hextras⟩
    · simp only [Metadata.ofForm, hname', hnamespace', hlabels', hannotations']

theorem metadata_record {name namespaceName labels annotations : Value} {metadata : Metadata}
    (hname : name.readOptional Schema.text.check = .ok metadata.name)
    (hnamespace : namespaceName.readOptional Schema.text.check = .ok metadata.namespaceName)
    (hlabels : (Schema.dict .label).check labels = .ok metadata.labels)
    (hannotations : (Schema.dict .label).check annotations = .ok metadata.annotations) :
    ∃ form, Declared.metadata.check (.record [("name", name), ("namespace", namespaceName),
        ("labels", labels), ("annotations", annotations)]) = .ok form ∧
      Metadata.ofForm form = metadata := by
  obtain ⟨labels, rfl⟩ := dict_mapping hlabels
  obtain ⟨annotations, rfl⟩ := dict_mapping hannotations
  exact metadata_ok.mpr ⟨hname, hnamespace, hlabels, hannotations, by simp [Entries.TextKeyed]⟩

theorem matchDeclared_ok {v : Value} {document : Document} :
    matchDeclared v = .ok document ↔ Declared.pod.check v = .ok document.form := by
  obtain ⟨form⟩ := document
  unfold matchDeclared
  split <;> simp [*]

/-- The kind, the metadata and the spec of a pod that is read, null standing for
an empty part. -/
theorem pod_parts {document : Document} (h : matchDeclared (.mapping entries) = .ok document) :
    ∃ kind metadata spec, document.pod.metadata = Metadata.ofForm metadata ∧
      document.pod.spec = PodSpec.ofForm spec ∧
      entries.get? "kind" = some kind ∧ Scalar.readText kind = .ok document.pod.kind ∧
      Declared.metadata.check ((entries.get "metadata").collapse (.mapping [])) = .ok metadata ∧
      Declared.podSpec.check ((entries.get "spec").collapse (.mapping [])) = .ok spec := by
  have hmetadata : Declared.metadata.check (.mapping []) = .ok ((none, none, none, none, ()), []) :=
    rfl
  have hspec : Declared.podSpec.check (.mapping []) =
      .ok ((none, none, none, none, none, none, none, none, none, ()), []) := rfl
  obtain ⟨⟨⟨kind, apiVersion, metadata, spec, ⟨⟩⟩, extras⟩⟩ := document
  simp only [matchDeclared_ok, Declared.pod, Schema.check, Fields.check, Checked.both_ok] at h
  obtain ⟨⟨hkind, -, hmeta, hspec', -⟩, -⟩ := h
  obtain ⟨v, hv, hread⟩ := Field.required_ok.mp hkind
  refine ⟨v, metadata.getD ((none, none, none, none, ()), []), spec.getD
    ((none, none, none, none, none, none, none, none, none, ()), []), ?_, ?_, hv,
    Checked.ofExcept_ok.mp hread, (Field.collapsing_ok hmetadata).mp ⟨metadata, hmeta, rfl⟩,
    (Field.collapsing_ok hspec).mp ⟨spec, hspec', rfl⟩⟩
  · cases metadata <;> rfl
  · cases spec <;> rfl

theorem matchDeclared_record {kind apiVersion : String} {v w : Value}
    {metadata : Declared.metadata.Form} {spec : Declared.podSpec.Form}
    (hmetadata : Declared.metadata.check v = .ok metadata)
    (hspec : Declared.podSpec.check w = .ok spec) :
    matchDeclared (.record [("apiVersion", .text apiVersion), ("kind", .text kind),
        ("metadata", v), ("spec", w)]) =
      .ok ⟨((kind, some (some apiVersion), some metadata, some spec, ()), [])⟩ := by
  have hv : Declared.metadata.check (v.collapse (.mapping [])) = .ok metadata := by
    obtain ⟨_, rfl⟩ := record_mapping hmetadata
    exact hmetadata
  have hw : Declared.podSpec.check (w.collapse (.mapping [])) = .ok spec := by
    obtain ⟨_, rfl⟩ := record_mapping hspec
    exact hspec
  rw [matchDeclared_ok]
  refine Checked.both_ok.mpr ⟨?_, rfl⟩
  refine Fields.check_cons.mpr ⟨?kind, Fields.check_cons.mpr ⟨?version,
    Fields.check_cons.mpr ⟨?metadata, Fields.check_cons.mpr ⟨?spec, rfl⟩⟩⟩⟩
  case kind => rfl
  case version => rfl
  case metadata => exact Field.collapsing_given rfl hv
  case spec => exact Field.collapsing_given rfl hw

theorem readDocument_kind {document : Document}
    (h : readDocument (.mapping entries) = .ok document) :
    entries.get "kind" = .text document.pod.kind ∧ document.pod.kind ≠ "" := by
  obtain ⟨_, houtline, hmatch⟩ := bind_ok.mp h
  obtain ⟨kind, hkind, -⟩ := bind_ok.mp houtline
  obtain ⟨hget, hne⟩ := kindOf_ok.mp hkind
  obtain ⟨v, _, _, -, -, hv, hread, -⟩ := pod_parts hmatch
  cases hget.symm.trans (Entries.get_of_get? hv)
  cases hread
  exact ⟨hget, hne⟩

/-- A pod is judged by itself. -/
theorem readPod_document {document : Document}
    (h : readDocument (.mapping entries) = .ok document) (hpod : document.pod.kind = "Pod") :
    readPod (.mapping entries) = .ok (some document.pod) := by
  have hkind := readDocument_kind h
  rw [hpod] at hkind
  exact readPod_some.mpr ⟨_, document,
    extractPod_some.mpr ⟨"Pod", hkind, .inl ⟨rfl, rfl⟩⟩, h, rfl⟩

end PodPolicy
