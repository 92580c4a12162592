import PodPolicy.Proofs.Evaluation
import PodPolicy.Proofs.NumberLength
import PodPolicy.Proofs.PodShape

/-!
# Pods inside of controllers

A controller is judged by the pod of its template under its own name and
namespace. `evaluate_wrapped`: to rules that look at neither the name nor the
apiVersion of a pod, as all of the catalog, that is the pod itself.
-/

namespace PodPolicy

open Workload

-- -----------------------------------------------------------------------------
-- Rules that do not look at the name
-- -----------------------------------------------------------------------------

def Pod.renamed (pod : Pod) (name apiVersion : Option String) : Pod :=
  { pod with apiVersion := apiVersion, metadata := { pod.metadata with name := name } }

def Rule.IgnoresIdentity (r : Rule) : Prop :=
  ∀ (pod : Pod) (name apiVersion : Option String) (subject : r.scope.Subject),
    r.check (pod.renamed name apiVersion) subject = r.check pod subject ∧
      r.figure (pod.renamed name apiVersion) subject = r.figure pod subject

section
variable {r : Rule} {e : Engine} {pod : Pod} {name apiVersion : Option String}

theorem Scope.subjects_renamed (s : Scope) :
    s.subjects (pod.renamed name apiVersion) = s.subjects pod := by
  cases s <;> rfl

theorem Rule.IgnoresIdentity.violations (h : r.IgnoresIdentity) :
    r.violations (pod.renamed name apiVersion) = r.violations pod := by
  have hjudge (subject) : r.judge (pod.renamed name apiVersion) subject = r.judge pod subject := by
    simp only [Rule.judge, (h pod name apiVersion subject).1]
  simp only [Rule.violations, Scope.subjects_renamed, funext hjudge]

theorem Rule.IgnoresIdentity.canTellAll (h : r.IgnoresIdentity) :
    r.canTellAll (pod.renamed name apiVersion) = r.canTellAll pod := by
  have htell (subject) :
      r.canTell (pod.renamed name apiVersion) subject = r.canTell pod subject := by
    simp only [Rule.canTell, (h pod name apiVersion subject).1, (h pod name apiVersion subject).2]
  simp only [Rule.canTellAll, Scope.subjects_renamed, funext htell]

theorem Engine.verdict_renamed (h : ∀ r ∈ e.rules, r.IgnoresIdentity) :
    e.verdict (pod.renamed name apiVersion) = e.verdict pod := by
  have hactive : ∀ r ∈ e.activeRules, r.IgnoresIdentity :=
    fun r hr => h r (List.mem_filter.mp hr).1
  have htell : e.canTell (pod.renamed name apiVersion) = e.canTell pod := by
    unfold Engine.canTell
    rw [Bool.eq_iff_iff, List.all_eq_true, List.all_eq_true]
    exact forall₂_congr fun r hr => by rw [(hactive r hr).canTellAll]
  have hjudge : e.judge (pod.renamed name apiVersion) = e.judge pod := by
    simp only [Engine.judge, List.flatMap_def]
    rw [List.map_congr_left fun r hr => (hactive r hr).violations]
  simp only [Engine.verdict, htell, hjudge]

theorem catalog_ignoresIdentity : ∀ r ∈ catalog, r.IgnoresIdentity := by
  simp only [catalog, List.forall_mem_cons, List.not_mem_nil, false_implies, implies_true, and_true]
  repeat' apply And.intro
  all_goals exact fun _ _ _ _ => ⟨rfl, rfl⟩

end

-- -----------------------------------------------------------------------------
-- The pod of a template
-- -----------------------------------------------------------------------------

namespace Workload

def TemplatePlace.kinds : TemplatePlace → List String
  | .direct => templateKinds
  | .ofJob => ["CronJob"]

def TemplatePlace.keys : TemplatePlace → List String
  | .direct => ["spec", "template"]
  | .ofJob => ["spec", "jobTemplate", "spec", "template"]

/-- A controller with its own metadata, and with the metadata and the spec of a
bare pod in its template. -/
structure Wraps (place : TemplatePlace) (owner bare manifest : Entries) : Prop where
  kind : ∃ kind ∈ place.kinds, manifest.get "kind" = .text kind
  owner : asMapping "metadata" (manifest.get "metadata") = .ok owner
  template : ∃ template : Entries,
    (Value.mapping manifest).at? place.keys = some (.mapping template) ∧
      template.get "metadata" = bare.get "metadata" ∧ template.get "spec" = bare.get "spec"

variable {place : TemplatePlace} {owner bare manifest template templateMetadata : Entries}
  {kind : String}

theorem asMapping_ok {path : String} {v : Value} {entries : Entries} :
    asMapping path v = .ok entries ↔ v.collapse (.mapping []) = .mapping entries := by
  cases v <;> simp [asMapping, Value.collapse]

theorem kinds_spec (h : kind ∈ place.kinds) :
    kind ≠ "" ∧ kind ≠ "Pod" ∧ kind ∉ podlessKinds ∧
      TemplatePlace.ofKind? kind = some place := by
  cases place <;> revert kind <;> decide

theorem templateIn_ok
    (h : (Value.mapping manifest).at? place.keys = some (.mapping template)) :
    ∃ spec, manifest.get "spec" = .mapping spec ∧
      templateIn spec place = .ok (.mapping template) := by
  cases place with
  | direct =>
    simp only [TemplatePlace.keys, Value.at?_cons, Value.at?_nil, Value.mapping.injEq] at h
    obtain ⟨_, rfl, _, hspec, spec, rfl, _, htemplate, h⟩ := h
    cases h
    exact ⟨spec, Entries.get_of_get? hspec, by rw [templateIn, Entries.get_of_get? htemplate]⟩
  | ofJob =>
    simp only [TemplatePlace.keys, Value.at?_cons, Value.at?_nil, Value.mapping.injEq] at h
    obtain ⟨_, rfl, _, hspec, spec, rfl, _, hjob, job, rfl, _, hjobSpec, jobSpec, rfl, _, htemplate,
      h⟩ := h
    cases h
    refine ⟨spec, Entries.get_of_get? hspec, ?_⟩
    simp only [templateIn, bind_ok, pure_ok, Entries.get_of_get? hjob]
    exact ⟨job, rfl, jobSpec, by rw [Entries.get_of_get? hjobSpec, asMapping],
      Entries.get_of_get? htemplate⟩

theorem Wraps.extractPod (h : Wraps place owner bare manifest)
    (hmetadata : (bare.get "metadata").collapse (.mapping []) = .mapping templateMetadata) :
    ∃ template : Entries, template.get "spec" = bare.get "spec" ∧
      extractPod (.mapping manifest) = .ok (some (lift owner template templateMetadata)) := by
  obtain ⟨kind, hmem, hkind⟩ := h.kind
  obtain ⟨hne, hpod, hpodless, hplace⟩ := kinds_spec hmem
  obtain ⟨template, hat, htemplateMetadata, htemplateSpec⟩ := h.template
  obtain ⟨spec, hspec, htemplate⟩ := templateIn_ok hat
  have hlift : podOfTemplate kind place manifest spec =
      .ok (lift owner template templateMetadata) := podOfTemplate_ok.mpr
    ⟨template, owner, templateMetadata, htemplate, h.owner,
      asMapping_ok.mpr (by rw [htemplateMetadata, hmetadata]), rfl⟩
  have hother : podOfOther kind manifest = .ok (lift owner template templateMetadata) :=
    podOfOther_ok.mpr ⟨spec, by rw [hspec, asMapping], .inl ⟨place, hplace, hlift⟩⟩
  exact ⟨template, htemplateSpec,
    extractPod_some.mpr ⟨kind, ⟨hkind, hne⟩, .inr ⟨hpod, hpodless, hother⟩⟩⟩

theorem orElse_of_collapse {v : Value} {entries : Entries}
    (h : v.collapse (.mapping []) = .mapping entries) :
    v.orElse (.mapping []) = .mapping entries := by
  cases v with
  | null => exact h
  | mapping found => cases found <;> exact h
  | _ => cases h

theorem checkSpec_collapse {v : Value} (h : checkSpec v = .ok ()) :
    checkSpec (v.collapse (.mapping [])) = .ok () := by
  cases v with
  | null => rfl
  | mapping spec => exact h
  | _ => cases h

/-- The pod of a template is read from the owner's name, the namespace of either
and the template's own labels, annotations and spec. -/
theorem readDocument_lift (metadata : Metadata) {spec : Declared.podSpec.Form}
    (hname : (owner.get "name").readOptional Schema.text.check = .ok metadata.name)
    (hnamespace : ((owner.get "namespace").orElse (templateMetadata.get "namespace")).readOptional
      Schema.text.check = .ok metadata.namespaceName)
    (hlabels : (Schema.dict .label).check ((templateMetadata.get "labels").collapse (.mapping [])) =
      .ok metadata.labels)
    (hannotations : (Schema.dict .label).check
      ((templateMetadata.get "annotations").collapse (.mapping [])) = .ok metadata.annotations)
    (houtline : checkSpec (template.get "spec") = .ok ())
    (hspec : Declared.podSpec.check ((template.get "spec").collapse (.mapping [])) = .ok spec) :
    ∃ document, readDocument (lift owner template templateMetadata) = .ok document ∧
      document.pod = ⟨"Pod", some "v1", metadata, PodSpec.ofForm spec⟩ := by
  obtain ⟨labels, hlabelsMapping⟩ := dict_mapping hlabels
  obtain ⟨annotations, hannotationsMapping⟩ := dict_mapping hannotations
  obtain ⟨specEntries, hspecMapping⟩ := record_mapping hspec
  have houtline := checkSpec_collapse houtline
  rw [hspecMapping] at hspec houtline
  rw [hlabelsMapping] at hlabels
  rw [hannotationsMapping] at hannotations
  have hlift : lift owner template templateMetadata = .record [("apiVersion", .text "v1"),
      ("kind", .text "Pod"), ("metadata", .record [("name", owner.get "name"),
        ("namespace", (owner.get "namespace").orElse (templateMetadata.get "namespace")),
        ("labels", .mapping labels), ("annotations", .mapping annotations)]),
      ("spec", .mapping specEntries)] := by
    rw [lift, orElse_of_collapse hlabelsMapping, orElse_of_collapse hannotationsMapping,
      orElse_of_collapse hspecMapping]
  obtain ⟨form, hform, hmetadata⟩ := metadata_record hname hnamespace hlabels hannotations
  refine ⟨⟨(("Pod", some (some "v1"), some form, some spec, ()), [])⟩, ?_, ?_⟩
  · rw [hlift]
    exact bind_ok.mpr ⟨(), houtline, matchDeclared_record hform hspec⟩
  · simp only [Document.pod, Pod.ofForm, Option.map_some, Option.getD_some, hmetadata]
    rfl

end Workload

-- -----------------------------------------------------------------------------
-- The verdict on a controller
-- -----------------------------------------------------------------------------

section
variable {e : Engine} {place : TemplatePlace} {owner bare manifest : Entries} {document : Document}
  {name namespaceName : Option String}

theorem readPod_wrapped (haccepted : readDocument (.mapping bare) = .ok document)
    (hwraps : Wraps place owner bare manifest)
    (hname : (owner.get "name").readOptional Schema.text.check = .ok name)
    (hnamespace : ∀ templateMetadata : Entries,
      (bare.get "metadata").collapse (.mapping []) = .mapping templateMetadata →
        ((owner.get "namespace").orElse (templateMetadata.get "namespace")).readOptional
          Schema.text.check = .ok namespaceName) :
    readPod (.mapping manifest) = .ok (some ⟨"Pod", some "v1",
      { document.pod.metadata with name := name, namespaceName := namespaceName },
      document.pod.spec⟩) := by
  obtain ⟨_, houtline, hmatch⟩ := bind_ok.mp haccepted
  obtain ⟨kind, metadata, spec, hmetadata, hspec, -, -, hmetadataCheck, hspecCheck⟩ :=
    pod_parts hmatch
  obtain ⟨templateMetadata, hmapping⟩ := record_mapping hmetadataCheck
  rw [hmapping] at hmetadataCheck
  obtain ⟨-, -, hlabels, hannotations, -⟩ := metadata_ok.mp ⟨metadata, hmetadataCheck, rfl⟩
  obtain ⟨template, htemplateSpec, hextract⟩ := hwraps.extractPod hmapping
  have hcheckSpec : checkSpec (bare.get "spec") = .ok () := by
    obtain ⟨_, -, hcheckSpec⟩ := bind_ok.mp houtline
    exact hcheckSpec
  rw [← htemplateSpec] at hcheckSpec hspecCheck
  obtain ⟨lifted, hlifted, hpodOf⟩ := readDocument_lift
    { Metadata.ofForm metadata with name := name, namespaceName := namespaceName }
    hname (hnamespace _ hmapping) hlabels hannotations hcheckSpec hspecCheck
  rw [readPod_some]
  refine ⟨_, lifted, hextract, hlifted, ?_⟩
  rw [hpodOf, hmetadata, hspec]

theorem evaluate_bare (hpod : bare.get "kind" = .text "Pod")
    (haccepted : readDocument (.mapping bare) = .ok document) :
    document.pod.kind = "Pod" ∧
      e.evaluate (.mapping bare) = (e.verdict document.pod).mapError .fault := by
  have hkind : document.pod.kind = "Pod" := by
    simpa [hpod] using (readDocument_kind haccepted).1.symm
  exact ⟨hkind, evaluate_some (readPod_document haccepted hkind)⟩

theorem bare_namespace {templateMetadata : Entries}
    (haccepted : readDocument (.mapping bare) = .ok document)
    (hmapping : (bare.get "metadata").collapse (.mapping []) = .mapping templateMetadata) :
    (templateMetadata.get "namespace").readOptional Schema.text.check =
      .ok document.pod.metadata.namespaceName := by
  obtain ⟨_, -, hmatch⟩ := bind_ok.mp haccepted
  obtain ⟨_, metadata, _, hmetadata, -, -, -, hcheck, -⟩ := pod_parts hmatch
  rw [hmapping] at hcheck
  obtain ⟨-, hnamespace, -⟩ := metadata_ok.mp ⟨metadata, hcheck, rfl⟩
  rw [hnamespace, hmetadata]

theorem orElse_namespace {templateMetadata : Entries}
    (hmapping : (bare.get "metadata").collapse (.mapping []) = .mapping templateMetadata)
    (hnamespace : (owner.get "namespace").isVoid ∨
      (Value.mapping bare).at? ["metadata", "namespace"] = some (owner.get "namespace")) :
    (owner.get "namespace").orElse (templateMetadata.get "namespace") =
      templateMetadata.get "namespace" := by
  unfold Value.orElse
  split
  · rfl
  · rename_i hvoid
    have hat := hnamespace.resolve_left hvoid
    simp only [Value.at?_cons, Value.at?_nil, Value.mapping.injEq] at hat
    obtain ⟨_, rfl, _, hmetadata, metadata, rfl, _, hfound, h⟩ := hat
    cases h
    rw [Entries.get_of_get? hmetadata] at hmapping
    cases hmapping
    exact (Entries.get_of_get? hfound).symm

/-- A controller gets the verdict of the pod that it wraps, where it has the
pod's namespace or none and no rule looks at a name. A namespace of its own is
the one that the rules see. -/
theorem evaluate_wrapped (hrules : ∀ r ∈ e.rules, r.IgnoresIdentity)
    (hpod : bare.get "kind" = .text "Pod")
    (haccepted : readDocument (.mapping bare) = .ok document)
    (hwraps : Wraps place owner bare manifest)
    (hname : owner.get "name" = .null ∨ ∃ name, owner.get "name" = .text name) :
    ((owner.get "namespace").isVoid ∨
        (Value.mapping bare).at? ["metadata", "namespace"] = some (owner.get "namespace") →
      e.evaluate (.mapping manifest) = e.evaluate (.mapping bare) ∧
        ∀ u, e.evaluate (.mapping manifest) = .error u → u = .fault .untellableNumber) ∧
    ∀ ns, (owner.get "namespace").isVoid = false →
      Scalar.readText (owner.get "namespace") = .ok ns →
        ∃ pod, readPod (.mapping manifest) = .ok (some pod) ∧
          pod.metadata.namespaceName = some ns := by
  obtain ⟨name, hread⟩ : ∃ name, (owner.get "name").readOptional Schema.text.check = .ok name := by
    rcases hname with h | ⟨name, h⟩
    · exact ⟨none, by rw [h]; rfl⟩
    · exact ⟨some name, by rw [h]; rfl⟩
  constructor
  · intro hnamespace
    have hread := readPod_wrapped haccepted hwraps hread fun _ hmapping =>
      orElse_namespace hmapping hnamespace ▸ bare_namespace haccepted hmapping
    obtain ⟨hkind, hbare⟩ := evaluate_bare (e := e) hpod haccepted
    have hrenamed : (⟨"Pod", some "v1", { document.pod.metadata with name := name },
        document.pod.spec⟩ : Pod) = document.pod.renamed name (some "v1") := by
      rw [Pod.renamed, hkind]
    rw [hbare, evaluate_some hread, hrenamed, Engine.verdict_renamed hrules]
    refine ⟨rfl, fun u h => ?_⟩
    obtain ⟨fault, hverdict, rfl⟩ := mapError_error.mp h
    rw [Engine.verdict_error hverdict]
  · intro ns hvoid hns
    have hnull : owner.get "namespace" ≠ .null := by
      intro h
      rw [h] at hns
      cases hns
    have hown (v : Value) :
        ((owner.get "namespace").orElse v).readOptional Schema.text.check = .ok (some ns) := by
      rw [Value.orElse, if_neg (by simp [hvoid]), Value.readOptional_some hnull, Schema.check, hns]
      rfl
    exact ⟨_, readPod_wrapped haccepted hwraps hread fun _ _ => hown _, rfl⟩

end

def hostPod : Entries :=
  [(.text "kind", .text "Pod"),
   (.text "metadata", .record [("name", .text "web"), ("namespace", .text "production")]),
   (.text "spec", .record [("hostNetwork", .bool true), ("containers", .null)])]

def hostJobOwner : Entries := [(.text "name", .text "nightly")]

def hostJob : Entries :=
  [(.text "kind", .text "CronJob"),
   (.text "metadata", .mapping hostJobOwner),
   (.text "spec", .record [("jobTemplate", .record [("spec", .record [("template", .record [
      ("metadata", hostPod.get "metadata"), ("spec", hostPod.get "spec")])])])])]

theorem hostJob_wraps : Wraps .ofJob hostJobOwner hostPod hostJob where
  kind := ⟨"CronJob", by decide, rfl⟩
  owner := rfl
  template := ⟨_, rfl, rfl, rfl⟩

theorem evaluate_hostJob :
    (∃ document, readDocument (.mapping hostPod) = .ok document) ∧
      Wraps .ofJob hostJobOwner hostPod hostJob ∧ (hostJobOwner.get "namespace").isVoid ∧
      (Engine.make catalog ["host-pid"] 4).evaluate (.mapping hostJob) =
        (Engine.make catalog ["host-pid"] 4).evaluate (.mapping hostPod) := by
  have hwrapped := evaluate_wrapped (e := Engine.make catalog ["host-pid"] 4)
    catalog_ignoresIdentity rfl rfl hostJob_wraps (.inr ⟨_, rfl⟩)
  exact ⟨⟨_, rfl⟩, hostJob_wraps, rfl, (hwrapped.1 (.inl rfl)).1⟩

def nightlyRule : Rule where
  id := "nightly"
  scope := .pod
  severity := .low
  category := "Names"
  description := "Pods must not be named nightly."
  check := fun pod _ => .when (pod.metadata.name == some "nightly") "Pod must not be named nightly"

def versionRule : Rule where
  id := "version"
  scope := .pod
  severity := .low
  category := "Names"
  description := "Pods must say their apiVersion."
  check := fun pod _ => .when pod.apiVersion.isNone "Pod must have an apiVersion"

/-- A rule that looks at the name of a pod sees that of the controller, and one that looks
at its apiVersion sees one where the pod has none. -/
theorem evaluate_hostJob_identity :
    (Engine.make [nightlyRule] [] 1).evaluate (.mapping hostPod) = .ok [] ∧
    (Engine.make [nightlyRule] [] 1).evaluate (.mapping hostJob) = .ok
      [⟨"nightly", "Pod must not be named nightly", .policy, .low, "Names", none, none⟩] ∧
    (Engine.make [versionRule] [] 1).evaluate (.mapping hostPod) = .ok
      [⟨"version", "Pod must have an apiVersion", .policy, .low, "Names", none, none⟩] ∧
    (Engine.make [versionRule] [] 1).evaluate (.mapping hostJob) = .ok [] :=
  ⟨rfl, rfl, rfl, rfl⟩

def endlessPod : Entries :=
  [(.text "kind", .text "Pod"),
   (.text "spec", .record [("terminationGracePeriodSeconds", .int Numeral.tellingLimit)])]

def endlessDeployment : Entries :=
  [(.text "kind", .text "Deployment"),
   (.text "spec", .record [("template", .record [("spec", endlessPod.get "spec")])])]

theorem canTellAll_terminationGracePeriodCeiling {pod : Pod} {n : Int}
    (h : pod.spec.terminationGracePeriodSeconds = some n) (hover : 60 < n)
    (hlong : Numeral.isTellable n = false) :
    Catalog.terminationGracePeriodCeiling.canTellAll pod = false := by
  simp [Catalog.terminationGracePeriodCeiling, Rule.canTellAll, Rule.canTell, Scope.subjects,
    Catalog.whenAbove, Finding.when, Catalog.gracePeriodCeiling, h, hover, hlong]

theorem evaluate_endless {v : Value} {pod : Pod} (hread : readPod v = .ok (some pod))
    (hperiod : pod.spec.terminationGracePeriodSeconds = some Numeral.tellingLimit) :
    evaluate v = .error (.fault .untellableNumber) := by
  have hover : (60 : Int) < Numeral.tellingLimit := by
    have hpow := Numeral.pow_le_tellingLimit (by decide : 2 ≤ Numeral.maxDecimalDigits)
    omega
  have hrule : Catalog.terminationGracePeriodCeiling.canTellAll pod = false :=
    canTellAll_terminationGracePeriodCeiling hperiod hover Numeral.isTellable_tellingLimit
  have hactive : Catalog.terminationGracePeriodCeiling ∈ Engine.default.activeRules := by
    simp [Engine.default_activeRules, catalog]
  rw [evaluate, evaluate_some hread, Engine.verdict_untellable hactive hrule]
  rfl

/-- A controller has no verdict where a number of its pod cannot be told, and rules that
look at the name or the apiVersion tell a controller from the pod that it wraps. -/
theorem evaluate_endlessDeployment :
    ((∃ document, readDocument (.mapping endlessPod) = .ok document) ∧
      Wraps .direct [] endlessPod endlessDeployment ∧
      evaluate (.mapping endlessDeployment) = .error (.fault .untellableNumber)) ∧
    (∃ document, readDocument (.mapping hostPod) = .ok document) ∧
      Wraps .ofJob hostJobOwner hostPod hostJob ∧ (hostJobOwner.get "namespace").isVoid ∧
      ∀ r ∈ [nightlyRule, versionRule], (Engine.make [r] [] 1).evaluate (.mapping hostJob) ≠
        (Engine.make [r] [] 1).evaluate (.mapping hostPod) := by
  obtain ⟨hpod, hjob, hpod', hjob'⟩ := evaluate_hostJob_identity
  refine ⟨⟨⟨_, rfl⟩, ⟨⟨"Deployment", by decide, rfl⟩, rfl, _, rfl, rfl, rfl⟩, ?_⟩, ⟨_, rfl⟩,
    hostJob_wraps, rfl, ?_⟩
  · have hread : readPod (.mapping endlessDeployment) = .ok (some ⟨"Pod", some "v1", {},
        { terminationGracePeriodSeconds := some Numeral.tellingLimit }⟩) := rfl
    exact evaluate_endless hread rfl
  · rw [List.forall_mem_cons, List.forall_mem_singleton, hpod, hjob, hpod', hjob']
    exact ⟨nofun, nofun⟩

end PodPolicy
