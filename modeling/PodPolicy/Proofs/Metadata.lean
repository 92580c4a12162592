import PodPolicy.Proofs.Admission
import PodPolicy.Proofs.Completion

/-!
# Metadata of any type

The object under review may have metadata of any type. Before it is evaluated,
entries are made of it: void metadata and lists of pairs are taken for mappings,
and anything else ends the request with a fault. `review_keeps_iff`: an
accepted review is answered, and its object denied where it is malformed, exactly
where entries can be made and the object is no less malformed with them. That is
so where the metadata is null or a mapping and namespaces can be read.
-/

namespace PodPolicy

variable {v : Value} {entries : Entries}

-- -----------------------------------------------------------------------------
-- What entries are made of
-- -----------------------------------------------------------------------------

def Value.IsPair (v : Value) : Prop :=
  ∃ key value, v.parts? = some [key, value] ∧ key.isKey = true

/-- Void values, mappings and collections of pairs. -/
def Value.MakesEntries (v : Value) : Prop :=
  v.isVoid = true ∨ (∃ entries, v = .mapping entries) ∨
    ∃ parts, v.parts? = some parts ∧ ∀ part ∈ parts, part.IsPair

theorem asPair_ok : (∃ pair, v.asPair = .ok pair) ↔ v.IsPair := by
  unfold Value.asPair Value.IsPair
  cases hparts : v.parts? with
  | none => simp
  | some parts =>
    match parts with
    | [key, value] =>
      simp only [Option.some.injEq, List.cons.injEq, and_true]
      split
      · rename_i hkey
        exact ⟨fun _ => ⟨key, value, ⟨rfl, rfl⟩, hkey⟩, fun _ => ⟨_, rfl⟩⟩
      · rename_i hkey
        simp only [reduceCtorEq, exists_false, false_iff]
        rintro ⟨_, _, ⟨rfl, rfl⟩, h⟩
        exact hkey h
    | [] => simp
    | [_] => simp
    | _ :: _ :: _ :: _ => simp

theorem makesEntries_iff : v.MakesEntries ↔ ∃ entries, metadataEntries v = .ok entries := by
  unfold Value.MakesEntries metadataEntries
  by_cases hvoid : v.isVoid = true
  · simp [hvoid]
  · simp only [hvoid, if_false, false_or, Bool.false_eq_true]
    split
    · exact iff_of_true (.inl ⟨_, rfl⟩) ⟨_, rfl⟩
    · rename_i hmapping
      split
      · rename_i hparts
        refine iff_of_false ?_ (by simp)
        rintro (⟨entries, rfl⟩ | ⟨parts, h, -⟩)
        · exact hmapping entries rfl
        · rw [hparts] at h
          cases h
      · rename_i parts hparts
        have hpairs : (∃ pairs, parts.mapM Value.asPair = .ok pairs) ↔
            ∀ part ∈ parts, part.IsPair := by
          simp only [exists_mapM_ok, asPair_ok]
        constructor
        · rintro (⟨entries, rfl⟩ | ⟨parts', h, hall⟩)
          · exact absurd rfl (hmapping entries)
          · cases hparts.symm.trans h
            obtain ⟨pairs, hmap⟩ := hpairs.mpr hall
            exact ⟨_, bind_ok.mpr ⟨pairs, hmap, rfl⟩⟩
        · rintro ⟨entries, h⟩
          obtain ⟨pairs, hmap, -⟩ := bind_ok.mp h
          exact .inr ⟨parts, hparts, hpairs.mp ⟨pairs, hmap⟩⟩

-- -----------------------------------------------------------------------------
-- What is not mended
-- -----------------------------------------------------------------------------

section
variable {request : AdmissionRequest} {e : Engine} {metadata : Entries}

theorem fillNamespace_kept {name : Option String}
    (h : (metadata.get "namespace").isVoid = false ∨ name.getD "" = "") :
    fillNamespace metadata name = metadata := by
  rw [AdmissionRequest.fillNamespace_eq, if_neg]
  rintro ⟨hvoid, hname⟩
  exact h.elim (fun h => by cases h.symm.trans hvoid) hname

theorem fillNamespace_agrees {name : Option String} :
    Entries.AgreesBut "namespace" metadata (fillNamespace metadata name) := by
  unfold fillNamespace
  split
  · exact .refl
  · split
    · exact .put
    · exact .refl

theorem AdmissionRequest.metadata_of_collapse
    (h : (request.entries.get "metadata").collapse (.mapping []) = .mapping metadata) :
    request.Metadata metadata := by
  cases hgiven : request.entries.get "metadata" with
  | null =>
    rw [hgiven] at h
    cases h
    exact .inr ⟨by rw [hgiven]; rfl, rfl⟩
  | _ =>
    rw [hgiven] at h
    exact .inl (hgiven.trans h)

/-- A namespace that is filled in mends no object whose own can be read. -/
theorem rejects_completed (hreadable : request.entries.ReadableNamespaces)
    (hmetadata : metadataEntries (request.entries.get "metadata") = .ok metadata)
    (h : e.Rejects (.mapping request.entries)) : e.Rejects (request.completed metadata) := by
  obtain ⟨own, hown, -⟩ := hreadable.metadata
  cases hmetadata.symm.trans (AdmissionRequest.metadata_of_collapse hown).entries
  have hmoves : request.entries.MovesTo (request.entries.put (.text "metadata")
      (.mapping (fillNamespace metadata request.namespaceName))) :=
    ⟨.put, metadata, _, hown, Entries.get_put_same, fillNamespace_agrees⟩
  rw [Engine.rejects_iff] at h ⊢
  cases hread : readPod (request.completed metadata) with
  | error s => exact ⟨s, rfl⟩
  | ok found =>
    obtain ⟨s, h⟩ := h
    obtain ⟨_, hread⟩ := readPod_moved hmoves hreadable ⟨found, hread⟩
    cases h.symm.trans hread

end

-- -----------------------------------------------------------------------------
-- What is promised of an answer
-- -----------------------------------------------------------------------------

namespace Webhook

/-- A review is answered under its uid, and an object that cannot be evaluated
as it stands is denied. -/
structure Response.Keeps (e : Engine) (request : AdmissionRequest) (response : Response) :
    Prop where
  answers : response.Answers request.uid
  denies : e.Rejects (.mapping request.entries) →
    ∃ message, response.Denies request.uid 400 message

variable {w : Webhook} {octets : List UInt8} {form : Declared.admissionReview.Form}
  {uid message : String} {metadata : Entries}

theorem not_denies_violations {mode : String} {violations : List Violation} :
    ¬(told uid (.ofViolations mode violations)).Denies uid 400 message := by
  intro h
  unfold Verdict.ofViolations at h
  split at h
  · cases h.allowed
  · dsimp only at h
    split at h
    · cases h.allowed
    · cases h.code

theorem review_unconvertible {fault : Fault}
    (haccepted : checkBody Declared.admissionReview octets = .ok form)
    (hobject : (AdmissionRequest.ofForm form).entries ≠ [])
    (hfault : metadataEntries ((AdmissionRequest.ofForm form).entries.get "metadata") =
      .error fault) : (w.review octets).status = 500 := by
  have hverdict : (AdmissionRequest.ofForm form).verdict w.engine w.mode = .error fault := by
    rw [AdmissionRequest.verdict_nonempty hobject, AdmissionRequest.judged_error hfault]
    rfl
  rw [review_fault haccepted hverdict]
  rfl

theorem review_denies_iff (haccepted : checkBody Declared.admissionReview octets = .ok form)
    (hjudgeable : (AdmissionRequest.ofForm form).Judgeable w.engine)
    (hobject : (AdmissionRequest.ofForm form).entries ≠ [])
    (hmetadata : metadataEntries ((AdmissionRequest.ofForm form).entries.get "metadata") =
      .ok metadata) :
    (w.review octets).Answers (AdmissionRequest.ofForm form).uid ∧
      ((∃ message, (w.review octets).Denies (AdmissionRequest.ofForm form).uid 400 message) ↔
        w.engine.Rejects ((AdmissionRequest.ofForm form).completed metadata)) := by
  cases houtcome : w.engine.evaluate ((AdmissionRequest.ofForm form).completed metadata) with
  | ok violations =>
    rw [review_judged haccepted hobject hmetadata (by rw [houtcome]; rfl)]
    refine ⟨told_answers, iff_of_false ?_ ?_⟩
    · rintro ⟨message, hdenies⟩
      exact not_denies_violations hdenies
    · rintro ⟨s, hshape⟩
      cases houtcome.symm.trans hshape
  | error u =>
    cases u with
    | shape s =>
      rw [review_judged haccepted hobject hmetadata (by rw [houtcome]; rfl)]
      exact ⟨told_answers, iff_of_true ⟨_, told_denied⟩ ⟨s, houtcome⟩⟩
    | fault fault => exact absurd houtcome (hjudgeable metadata fault hmetadata)

/-- What is promised of an answer holds exactly where the object is empty, or
entries can be made of its metadata and do not mend it. Other metadata ends the
request. Metadata that is null or a mapping is not mended where namespaces can be
read, and a mapping with nothing to fill in is never mended. -/
theorem review_keeps_iff (haccepted : checkBody Declared.admissionReview octets = .ok form)
    (hjudgeable : (AdmissionRequest.ofForm form).Judgeable w.engine) :
    let request := AdmissionRequest.ofForm form
    let given := request.entries.get "metadata"
    ((w.review octets).Keeps w.engine request ↔
      request.entries = [] ∨ ∃ metadata, metadataEntries given = .ok metadata ∧
        (w.engine.Rejects (.mapping request.entries) →
          w.engine.Rejects (request.completed metadata))) ∧
    (request.entries ≠ [] → ¬given.MakesEntries → (w.review octets).status = 500) ∧
    (request.entries.ReadableNamespaces → (w.review octets).Keeps w.engine request) ∧
    ∀ metadata : Entries, given = .mapping metadata →
      ((metadata.get "namespace").isVoid = false ∨ request.namespaceName.getD "" = "") →
        (w.review octets).Keeps w.engine request := by
  intro request given
  have hkeeps : (w.review octets).Keeps w.engine request ↔
      request.entries = [] ∨ ∃ metadata, metadataEntries given = .ok metadata ∧
        (w.engine.Rejects (.mapping request.entries) →
          w.engine.Rejects (request.completed metadata)) := by
    by_cases hempty : request.entries = []
    · refine iff_of_true ?_ (.inl hempty)
      rw [review_empty haccepted hempty]
      exact ⟨told_answers, fun _ => ⟨_, told_denied⟩⟩
    · cases hmetadata : metadataEntries given with
      | error fault =>
        refine iff_of_false ?_ (by simp [hempty])
        intro h
        have hstatus := h.answers.status
        rw [review_unconvertible haccepted hempty hmetadata] at hstatus
        cases hstatus
      | ok metadata =>
        obtain ⟨hanswers, hdenies⟩ := review_denies_iff haccepted hjudgeable hempty hmetadata
        constructor
        · exact fun h => .inr ⟨metadata, rfl, fun hrejects => hdenies.mp (h.denies hrejects)⟩
        · intro h
          obtain ⟨_, heq, h⟩ := h.resolve_left hempty
          cases heq
          exact ⟨hanswers, fun hrejects => hdenies.mpr (h hrejects)⟩
  refine ⟨hkeeps, ?_, ?_, ?_⟩
  · intro hobject hmakes
    cases hmetadata : metadataEntries given with
    | error fault => exact review_unconvertible haccepted hobject hmetadata
    | ok metadata => exact absurd (makesEntries_iff.mpr ⟨metadata, hmetadata⟩) hmakes
  · intro hreadable
    obtain ⟨metadata, hgiven, -⟩ := hreadable.metadata
    have hmetadata := (AdmissionRequest.metadata_of_collapse hgiven).entries
    exact hkeeps.mpr (.inr ⟨metadata, hmetadata, rejects_completed hreadable hmetadata⟩)
  · intro metadata hgiven hkept
    have hmetadata : metadataEntries given = .ok metadata :=
      AdmissionRequest.Metadata.entries (.inl hgiven)
    have hfound := Entries.get?_of_get hgiven (by simp)
    refine hkeeps.mpr (.inr ⟨metadata, hmetadata, fun hrejects => ?_⟩)
    rw [AdmissionRequest.completed, fillNamespace_kept hkept, Entries.put_self hfound]
    exact hrejects

theorem keeps_hostPod :
    ∃ form, checkBody Declared.admissionReview hostPodBody = .ok form ∧
      (AdmissionRequest.ofForm form).Judgeable hostNetworkEngine ∧
      ((Webhook.mk hostNetworkEngine "audit").review hostPodBody).Keeps hostNetworkEngine
        (AdmissionRequest.ofForm form) := by
  have hjudgeable := accepted_judgeable hostPodBody_accepted hostNetworkEngine_tellsOwn
  have hkeeps := (review_keeps_iff (w := ⟨hostNetworkEngine, "audit"⟩) hostPodBody_accepted
    hjudgeable).1
  refine ⟨_, hostPodBody_accepted, hjudgeable, hkeeps.mpr (.inr ⟨[], rfl, ?_⟩)⟩
  rintro ⟨s, h⟩
  cases h

def oddPodReview (metadata : Value) : Value :=
  .record [("request", .record [("uid", .text "u"),
    ("object", .record [("kind", .text "Pod"), ("metadata", metadata)])])]

def truePodBody : List UInt8 :=
  [123, 34, 114, 101, 113, 117, 101, 115, 116, 34, 58, 123, 34, 117, 105, 100, 34, 58, 34, 117,
   34, 44, 34, 111, 98, 106, 101, 99, 116, 34, 58, 123, 34, 107, 105, 110, 100, 34, 58, 34, 80,
   111, 100, 34, 44, 34, 109, 101, 116, 97, 100, 97, 116, 97, 34, 58, 116, 114, 117, 101, 125,
   125, 125]

def truePodText : String :=
  "\x7b\"request\":\x7b\"uid\":\"u\",\"object\":\x7b\"kind\":\"Pod\",\"metadata\":true\x7d\x7d\x7d"

theorem truePodText_read : Json.read truePodText = .ok (oddPodReview (.bool true)) :=
  toOption_some.mp (by decide +kernel)

def falsePodBody : List UInt8 :=
  [123, 34, 114, 101, 113, 117, 101, 115, 116, 34, 58, 123, 34, 117, 105, 100, 34, 58, 34, 117,
   34, 44, 34, 111, 98, 106, 101, 99, 116, 34, 58, 123, 34, 107, 105, 110, 100, 34, 58, 34, 80,
   111, 100, 34, 44, 34, 109, 101, 116, 97, 100, 97, 116, 97, 34, 58, 102, 97, 108, 115, 101, 125,
   125, 125]

def falsePodText : String :=
  "\x7b\"request\":\x7b\"uid\":\"u\",\"object\":\x7b\"kind\":\"Pod\",\"metadata\":false\x7d\x7d\x7d"

theorem falsePodText_read : Json.read falsePodText = .ok (oddPodReview (.bool false)) :=
  toOption_some.mp (by decide +kernel)

def oddPodForm (metadata : Value) : Declared.admissionReview.Form :=
  ((none, none, (("u", none, none,
    some (some [("kind", .text "Pod"), ("metadata", metadata)]), ()), []), ()), [])

theorem truePodBody_accepted :
    checkBody Declared.admissionReview truePodBody = .ok (oddPodForm (.bool true)) :=
  checkBody_ok (rfl : Text.decodeDetected? truePodBody = some truePodText) truePodText_read rfl
    nofun rfl

theorem falsePodBody_accepted :
    checkBody Declared.admissionReview falsePodBody = .ok (oddPodForm (.bool false)) :=
  checkBody_ok (rfl : Text.decodeDetected? falsePodBody = some falsePodText) falsePodText_read rfl
    nofun rfl

/-- Of two malformed pods, one ends its request with a fault, and the other is
mended and admitted. -/
theorem review_oddPods :
    (∃ form, checkBody Declared.admissionReview truePodBody = .ok form ∧
      (AdmissionRequest.ofForm form).Judgeable hostNetworkEngine ∧
      hostNetworkEngine.Rejects (.mapping (AdmissionRequest.ofForm form).entries) ∧
      ((Webhook.mk hostNetworkEngine "enforce").review truePodBody).status = 500) ∧
    ∃ form, checkBody Declared.admissionReview falsePodBody = .ok form ∧
      (AdmissionRequest.ofForm form).Judgeable hostNetworkEngine ∧
      hostNetworkEngine.Rejects (.mapping (AdmissionRequest.ofForm form).entries) ∧
      ((Webhook.mk hostNetworkEngine "enforce").review falsePodBody).Allows "u" := by
  refine ⟨⟨_, truePodBody_accepted, accepted_judgeable truePodBody_accepted
    hostNetworkEngine_tellsOwn, ⟨_, rfl⟩, ?_⟩, ⟨_, falsePodBody_accepted,
    accepted_judgeable falsePodBody_accepted hostNetworkEngine_tellsOwn, ⟨_, rfl⟩, ?_⟩⟩
  · exact review_unconvertible truePodBody_accepted nofun rfl
  · rw [review_judged falsePodBody_accepted nofun rfl rfl]
    exact told_allowed

end Webhook

end PodPolicy
