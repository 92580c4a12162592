import PodPolicy.Webhook
import PodPolicy.Proofs.JsonValue
import PodPolicy.Proofs.Outcome

/-!
# Answers to admission reviews

What the webhook answers to a review whose body is accepted. `review_decides`:
an object that cannot be evaluated is denied in every mode, one without
violations is allowed in every mode, and what audit mode warns of is what every
other mode denies for.
-/

namespace PodPolicy

namespace Webhook

def review (w : Webhook) (octets : List UInt8) : Response :=
  w.respond ⟨"POST", "/validate", octets⟩

namespace Response

def part (response : Response) (path : List String) : Option Value :=
  response.body.at? ("response" :: path)

structure Answers (uid : String) (response : Response) : Prop where
  status : response.status = 200
  kind : response.body.at? ["kind"] = some (.text "AdmissionReview")
  uid : response.part ["uid"] = some (.text uid)

structure Allows (uid : String) (response : Response) : Prop extends response.Answers uid where
  allowed : response.part ["allowed"] = some (.bool true)
  noStatus : response.part ["status"] = none
  noWarnings : response.part ["warnings"] = none

structure Warns (uid : String) (messages : List String) (response : Response) : Prop
    extends response.Answers uid where
  allowed : response.part ["allowed"] = some (.bool true)
  noStatus : response.part ["status"] = none
  warnings : response.part ["warnings"] = some (.list (messages.map .text))

structure Denies (uid : String) (code : Nat) (message : String) (response : Response) : Prop
    extends response.Answers uid where
  allowed : response.part ["allowed"] = some (.bool false)
  code : response.part ["status", "code"] = some (.int code)
  message : response.part ["status", "message"] = some (.text message)
  noWarnings : response.part ["warnings"] = none

end Response

def told (uid : String) (verdict : Verdict) : Response :=
  ⟨200, (Decision.mk uid verdict).toValue⟩

variable {uid : String}

theorem told_answers {verdict : Verdict} : (told uid verdict).Answers uid := by
  cases verdict <;> exact ⟨rfl, rfl, rfl⟩

theorem told_allowed : (told uid .allowed).Allows uid :=
  ⟨told_answers, rfl, rfl, rfl⟩

theorem told_warnings {messages : List String} :
    (told uid (.allowedWithWarnings messages)).Warns uid messages :=
  ⟨told_answers, rfl, rfl, rfl⟩

theorem told_denied {code : Nat} {message : String} :
    (told uid (.denied code message)).Denies uid code message :=
  ⟨told_answers, rfl, rfl, rfl, rfl⟩

end Webhook

-- -----------------------------------------------------------------------------
-- The object of a request
-- -----------------------------------------------------------------------------

namespace AdmissionRequest

def entries (request : AdmissionRequest) : Entries :=
  (request.object.getD []).map fun (name, v) => (.text name, v)

/-- The object with a mapping for its metadata, and with the namespace of the
request where it has none. -/
def completed (request : AdmissionRequest) (metadata : Entries) : Value :=
  .mapping (request.entries.put (.text "metadata")
    (.mapping (fillNamespace metadata request.namespaceName)))

variable {request : AdmissionRequest} {metadata : Entries} {e : Engine} {mode : String}

/-- The object under review, said apart from what completes it: the metadata in place of
its own, with the namespace of the request where that has a void one. -/
def placed (request : AdmissionRequest) (metadata : Entries) : Entries :=
  let ns := request.namespaceName.getD ""
  request.entries.put (.text "metadata") (.mapping
    (if (metadata.get "namespace").isVoid ∧ ns ≠ "" then
      metadata.put (.text "namespace") (.text ns)
    else metadata))

theorem fillNamespace_eq {ns : Option String} : fillNamespace metadata ns =
    if (metadata.get "namespace").isVoid ∧ ns.getD "" ≠ "" then
      metadata.put (.text "namespace") (.text (ns.getD ""))
    else metadata := by
  cases ns with
  | none => simp [fillNamespace]
  | some ns => simp [fillNamespace]

theorem completed_placed : request.completed metadata = .mapping (request.placed metadata) := by
  rw [completed, fillNamespace_eq, placed]

theorem fillNamespace_get {ns : Option String} (name : String) :
    (fillNamespace metadata ns).get name =
      if name = "namespace" ∧ (metadata.get "namespace").isVoid ∧ ns.getD "" ≠ ""
      then .text (ns.getD "") else metadata.get name := by
  rw [fillNamespace_eq]
  by_cases hfill : (metadata.get "namespace").isVoid = true ∧ ns.getD "" ≠ ""
  · rw [if_pos hfill]
    by_cases hname : name = "namespace"
    · rw [if_pos ⟨hname, hfill⟩, hname, Entries.get_put_same]
    · rw [if_neg (fun h => hname h.1), Entries.get_put_other hname]
  · rw [if_neg hfill, if_neg (fun h => hfill h.2)]

theorem entries_nil : request.entries = [] ↔ request.object.getD [] = [] := by
  simp [entries]

theorem verdict_empty (h : request.entries = []) :
    request.verdict e mode = .ok (.denied 400 "AdmissionReview request has no object") := by
  rw [verdict, entries_nil.mp h]

theorem judged_ok (h : metadataEntries (request.entries.get "metadata") = .ok metadata) :
    request.judged (request.object.getD []) = .ok (request.completed metadata) :=
  bind_ok.mpr ⟨metadata, h, rfl⟩

theorem judged_error {fault : Fault}
    (h : metadataEntries (request.entries.get "metadata") = .error fault) :
    request.judged (request.object.getD []) = .error fault :=
  bind_error.mpr (.inl h)

theorem verdict_nonempty (h : request.entries ≠ []) : request.verdict e mode =
    (request.judged (request.object.getD [])).bind fun manifest =>
      Verdict.ofOutcome mode (e.evaluate manifest) := by
  unfold verdict
  split
  · rename_i hnil
    exact absurd (entries_nil.mpr hnil) h
  · rfl

theorem verdict_completed (h : request.entries ≠ [])
    (hmetadata : metadataEntries (request.entries.get "metadata") = .ok metadata) :
    request.verdict e mode = Verdict.ofOutcome mode (e.evaluate (request.completed metadata)) := by
  rw [verdict_nonempty h, judged_ok hmetadata]
  rfl

/-- The metadata of an object is a mapping, or void and stands for an empty one. -/
def Metadata (request : AdmissionRequest) (metadata : Entries) : Prop :=
  request.entries.get "metadata" = .mapping metadata ∨
    (request.entries.get "metadata").isVoid = true ∧ metadata = []

/-- The completed object has a verdict or is refused for its shape: no message
needs a number that is too long to be told. -/
def Judgeable (request : AdmissionRequest) (e : Engine) : Prop :=
  ∀ metadata fault, metadataEntries (request.entries.get "metadata") = .ok metadata →
    e.evaluate (request.completed metadata) ≠ .error (.fault fault)

theorem Metadata.entries (h : request.Metadata metadata) :
    metadataEntries (request.entries.get "metadata") = .ok metadata := by
  unfold metadataEntries
  rcases h with h | ⟨h, rfl⟩
  · rw [h]
    cases metadata <;> rfl
  · rw [if_pos h]

end AdmissionRequest

section
variable {v : Value} {parts : List Value} {entries : Entries}

theorem parts?_tellable (hv : v.isTellable = true) (h : v.parts? = some parts) :
    ∀ part ∈ parts, part.isTellable = true := by
  cases v with
  | list items | tuple items | set items =>
    cases h
    rw [Value.isTellable] at hv
    exact Value.areTellable_iff.mp hv
  | text s =>
    cases h
    simp only [List.forall_mem_map]
    exact fun _ _ => rfl
  | bytes octets =>
    cases h
    simp only [List.forall_mem_map]
    intro octet _
    have hoctet := octet.toNat_lt
    rw [Value.isTellable]
    exact Numeral.isTellable_of_natAbs (by omega) (by decide : 3 ≤ Numeral.maxDecimalDigits)
  | mapping entries =>
    cases h
    simp only [List.forall_mem_map]
    exact fun entry hentry => (Value.isTellable_mapping.mp hv entry hentry).1
  | _ => cases h

theorem asPair_tellable {pair : Value × Value} (hv : v.isTellable = true)
    (h : v.asPair = .ok pair) : pair.1.isTellable = true ∧ pair.2.isTellable = true := by
  unfold Value.asPair at h
  split at h
  · cases h
  · rename_i key value hparts
    split at h
    · cases h
      have hmem := parts?_tellable hv hparts
      exact ⟨hmem key (by simp), hmem value (by simp)⟩
    · cases h
  · cases h

theorem metadataEntries_tellable (hv : v.isTellable = true)
    (h : metadataEntries v = .ok entries) : entries.Tellable := by
  unfold metadataEntries at h
  split at h
  · cases h
    exact .nil
  · split at h
    · cases h
      exact Value.isTellable_mapping.mp hv
    · split at h
      · cases h
      · rename_i parts hparts
        obtain ⟨pairs, hpairs, h⟩ := bind_ok.mp h
        cases pure_ok.mp h
        refine Entries.Tellable.ofList fun pair hpair => ?_
        obtain ⟨part, hpart, has⟩ := mapM_mem hpairs hpair
        exact asPair_tellable (parts?_tellable hv hparts part hpart) has

theorem fillNamespace_tellable {name : Option String} (h : entries.Tellable) :
    (fillNamespace entries name).Tellable := by
  unfold fillNamespace
  split
  · exact h
  · split
    · exact h.put rfl rfl
    · exact h

end

-- -----------------------------------------------------------------------------
-- Accepted bodies
-- -----------------------------------------------------------------------------

namespace Webhook

variable {w : Webhook} {octets : List UInt8} {form : Declared.admissionReview.Form}

theorem ofPath?_validate : Route.ofPath? "/validate" = some .validate := by
  rfl

theorem answer_validate {request : Request} (hpath : request.path = "/validate")
    (hmethod : request.method = "POST") :
    w.answer request = w.validateAdmission request.body := by
  simp only [answer, hpath, ofPath?_validate, hmethod, Route.method]
  rfl

section
variable {text : String} {v : Value} (hdecode : Text.decodeDetected? octets = some text)
  (hread : Json.read text = .ok v) (hne : octets.isEmpty = false) (hv : v ≠ .null)
include hdecode hread hne hv

theorem readBody_ok : readBody octets = .ok v := by
  simp only [readBody, hne, hdecode, hread]
  rfl

theorem checkBody_ok {s : Schema} {form : s.Form} (hcheck : s.check v = .ok form) :
    checkBody s octets = .ok form :=
  bind_ok.mpr ⟨v, readBody_ok hdecode hread hne hv, by rw [hcheck]; rfl⟩

end

theorem review_told {verdict : Verdict} (h : checkBody Declared.admissionReview octets = .ok form)
    (hverdict : (AdmissionRequest.ofForm form).verdict w.engine w.mode = .ok verdict) :
    w.review octets = told (AdmissionRequest.ofForm form).uid verdict := by
  have hdecide : (AdmissionRequest.ofForm form).decide w.engine w.mode =
      .ok ⟨(AdmissionRequest.ofForm form).uid, verdict⟩ := bind_ok.mpr ⟨verdict, hverdict, rfl⟩
  have hanswer : w.validateAdmission octets =
      .ok (Decision.mk (AdmissionRequest.ofForm form).uid verdict).toValue :=
    bind_ok.mpr ⟨form, h, by rw [hdecide]; rfl⟩
  rw [review, respond, answer_validate rfl rfl, hanswer]
  rfl

theorem review_fault {fault : Fault} (h : checkBody Declared.admissionReview octets = .ok form)
    (hverdict : (AdmissionRequest.ofForm form).verdict w.engine w.mode = .error fault) :
    w.review octets = (Failure.fault fault.label).response "/validate" := by
  have hdecide : (AdmissionRequest.ofForm form).decide w.engine w.mode = .error fault :=
    bind_error.mpr (.inl hverdict)
  have hanswer : w.validateAdmission octets = .error (.fault fault.label) :=
    bind_error.mpr (.inr ⟨form, h, by rw [hdecide]⟩)
  rw [review, respond, answer_validate rfl rfl, hanswer]

theorem readBody_isJson {v : Value} (h : readBody octets = .ok v) : v.IsJson := by
  unfold readBody at h
  split at h
  · cases h
  · split at h
    · cases h
    · split at h
      · cases h
      · rename_i hread
        cases h
        exact Json.read_isJson hread
      · split at h <;> cases h

theorem object_tellable (h : checkBody Declared.admissionReview octets = .ok form) :
    (AdmissionRequest.ofForm form).entries.Tellable := by
  obtain ⟨v, hv, h⟩ := bind_ok.mp h
  split at h
  · rename_i checked hcheck
    cases pure_ok.mp h
    obtain ⟨-, -, ⟨-, -, -, hobject, -⟩, -⟩ :=
      Schema.check_tellable _ _ _ (readBody_isJson hv).isTellable hcheck
    intro entry hentry
    obtain ⟨⟨name, value⟩, hmem, rfl⟩ := List.mem_map.mp hentry
    have hslot : form.1.2.2.1.1.2.2.2.1.join.getD [] =
        (AdmissionRequest.ofForm form).object.getD [] := rfl
    rw [← hslot] at hmem
    cases hjoin : form.1.2.2.1.1.2.2.2.1.join with
    | none => simp [hjoin] at hmem
    | some object =>
      rw [hjoin] at hmem
      exact ⟨rfl, hobject object (Option.join_eq_some_iff.mp hjoin) (name, value) hmem⟩
  · cases h

theorem completed_tellable {metadata : Entries}
    (h : checkBody Declared.admissionReview octets = .ok form)
    (hmetadata : metadataEntries ((AdmissionRequest.ofForm form).entries.get "metadata") =
      .ok metadata) :
    ((AdmissionRequest.ofForm form).completed metadata).isTellable = true := by
  have hobject := object_tellable h
  have htext {s : String} : (Value.text s).isTellable = true := rfl
  refine Value.isTellable_mapping.mpr (hobject.put htext (Value.isTellable_mapping.mpr ?_))
  exact fillNamespace_tellable (metadataEntries_tellable hobject.get hmetadata)

theorem accepted_judgeable {e : Engine}
    (haccepted : checkBody Declared.admissionReview octets = .ok form)
    (hrules : ∀ r ∈ e.rules, r.TellsOwn) : (AdmissionRequest.ofForm form).Judgeable e := by
  intro metadata fault hmetadata hfault
  rcases evaluate_outcome hrules (completed_tellable haccepted hmetadata) with
    ⟨s, hshape⟩ | ⟨violations, houtcome⟩
  · cases hfault.symm.trans hshape
  · cases hfault.symm.trans houtcome

-- -----------------------------------------------------------------------------
-- Decisions
-- -----------------------------------------------------------------------------

section
variable {e : Engine} {metadata : Entries} {mode : String}

def messages (violations : List Violation) : List String :=
  violations.map (·.message)

theorem ofOutcome_audit {violations : List Violation} (h : violations ≠ []) :
    Verdict.ofOutcome "audit" (.ok violations) =
      .ok (.allowedWithWarnings (messages violations)) := by
  rw [Verdict.ofOutcome, Verdict.ofViolations, if_neg (by simpa using h)]
  rfl

theorem ofOutcome_enforce {violations : List Violation} (h : violations ≠ [])
    (hmode : mode ≠ "audit") : Verdict.ofOutcome mode (.ok violations) =
      .ok (.denied 403 ("; ".intercalate (messages violations))) := by
  rw [Verdict.ofOutcome, Verdict.ofViolations, if_neg (by simpa using h)]
  exact congrArg Except.ok (if_neg hmode)

theorem review_empty (h : checkBody Declared.admissionReview octets = .ok form)
    (hempty : (AdmissionRequest.ofForm form).entries = []) :
    w.review octets = told (AdmissionRequest.ofForm form).uid
      (.denied 400 "AdmissionReview request has no object") :=
  review_told h (AdmissionRequest.verdict_empty hempty)

theorem review_judged (h : checkBody Declared.admissionReview octets = .ok form)
    (hobject : (AdmissionRequest.ofForm form).entries ≠ [])
    (hmetadata : metadataEntries ((AdmissionRequest.ofForm form).entries.get "metadata") =
      .ok metadata) {verdict : Verdict}
    (hverdict : Verdict.ofOutcome w.mode
      (w.engine.evaluate ((AdmissionRequest.ofForm form).completed metadata)) = .ok verdict) :
    w.review octets = told (AdmissionRequest.ofForm form).uid verdict :=
  review_told h (by rw [AdmissionRequest.verdict_completed hobject hmetadata, hverdict])

/-- The decision on an accepted review. An object that is empty or cannot be
evaluated is denied alike in every mode, and one without violations is allowed.
Audit mode allows the others and warns of what every other mode denies for. Only
a rule that tells a long number of its own can leave an object without a
decision, and then it is not admitted either. -/
theorem review_decides (haccepted : checkBody Declared.admissionReview octets = .ok form)
    (hmetadata : (AdmissionRequest.ofForm form).Metadata metadata) :
    let request := AdmissionRequest.ofForm form
    let manifest := Value.mapping (request.placed metadata)
    let answer := fun mode => (Webhook.mk e mode).review octets
    (request.entries = [] ∨ e.Rejects manifest →
      ∃ message response, response.Denies request.uid 400 message ∧
        ∀ mode, answer mode = response) ∧
    (request.entries ≠ [] → e.evaluate manifest = .ok [] →
      ∃ response, response.Allows request.uid ∧ ∀ mode, answer mode = response) ∧
    (∀ violations, request.entries ≠ [] → violations ≠ [] →
      e.evaluate manifest = .ok violations →
      (answer "audit").Warns request.uid (messages violations) ∧
        ∀ mode, mode ≠ "audit" →
          (answer mode).Denies request.uid 403 ("; ".intercalate (messages violations))) ∧
    (∀ fault, request.entries ≠ [] → e.evaluate manifest = .error (.fault fault) →
      (¬∀ r ∈ e.rules, r.TellsOwn) ∧ ∀ mode, (answer mode).status = 500) := by
  intro request manifest answer
  have hentries := hmetadata.entries
  have hjudged {mode : String} {verdict : Verdict} (hobject : request.entries ≠ [])
      (hverdict : Verdict.ofOutcome mode (e.evaluate manifest) = .ok verdict) :
      answer mode = told request.uid verdict :=
    review_judged haccepted hobject hentries (AdmissionRequest.completed_placed ▸ hverdict)
  refine ⟨?refused, ?clean, ?violating, ?faulty⟩
  case refused =>
    intro hrefused
    by_cases hempty : request.entries = []
    · exact ⟨_, _, told_denied, fun mode => review_empty haccepted hempty⟩
    · obtain ⟨s, hshape⟩ := hrefused.resolve_left hempty
      exact ⟨_, _, told_denied, fun mode => hjudged hempty (by rw [hshape]; rfl)⟩
  case clean =>
    intro hobject houtcome
    exact ⟨_, told_allowed, fun mode => hjudged hobject (by rw [houtcome]; rfl)⟩
  case violating =>
    intro violations hobject hviolations houtcome
    constructor
    · rw [hjudged hobject (houtcome ▸ ofOutcome_audit hviolations)]
      exact told_warnings
    · intro mode hmode
      rw [hjudged hobject (houtcome ▸ ofOutcome_enforce hviolations hmode)]
      exact told_denied
  case faulty =>
    intro fault hobject hfault
    constructor
    · exact fun hrules => accepted_judgeable haccepted hrules metadata fault hentries
        (AdmissionRequest.completed_placed ▸ hfault)
    · intro mode
      have hverdict : request.verdict e mode = .error fault := by
        rw [AdmissionRequest.verdict_completed hobject hentries, AdmissionRequest.completed_placed,
          hfault]
        rfl
      exact congrArg Response.status (review_fault (w := ⟨e, mode⟩) haccepted hverdict)

end

/-- A review of a pod that shares the host's network. -/
def hostPodBody : List UInt8 :=
  [123, 34, 114, 101, 113, 117, 101, 115, 116, 34, 58, 123, 34, 117, 105, 100, 34, 58, 34, 117,
   34, 44, 34, 110, 97, 109, 101, 115, 112, 97, 99, 101, 34, 58, 34, 119, 101, 98, 34, 44, 34,
   111, 98, 106, 101, 99, 116, 34, 58, 123, 34, 107, 105, 110, 100, 34, 58, 34, 80, 111, 100, 34,
   44, 34, 115, 112, 101, 99, 34, 58, 123, 34, 104, 111, 115, 116, 78, 101, 116, 119, 111, 114,
   107, 34, 58, 116, 114, 117, 101, 125, 125, 125, 125]

def hostPodText : String :=
  "\x7b\"request\":\x7b\"uid\":\"u\",\"namespace\":\"web\"," ++
    "\"object\":\x7b\"kind\":\"Pod\",\"spec\":\x7b\"hostNetwork\":true\x7d\x7d\x7d\x7d"

def hostPodReview : Value :=
  .record [("request", .record [("uid", .text "u"), ("namespace", .text "web"),
    ("object", .record [("kind", .text "Pod"), ("spec", .record [("hostNetwork", .bool true)])])])]

theorem hostPodText_read : Json.read hostPodText = .ok hostPodReview :=
  toOption_some.mp (by decide +kernel)

theorem hostPodBody_accepted :
    checkBody Declared.admissionReview hostPodBody = .ok
      ((none, none, (("u", some (some "web"), none,
        some (some [("kind", .text "Pod"), ("spec", .record [("hostNetwork", .bool true)])]), ()),
        []), ()), []) :=
  checkBody_ok (rfl : Text.decodeDetected? hostPodBody = some hostPodText) hostPodText_read rfl
    nofun rfl

def hostNetworkEngine : Engine :=
  Engine.make [Catalog.hostNetwork] [] 1

theorem hostNetworkEngine_tellsOwn : ∀ r ∈ hostNetworkEngine.rules, r.TellsOwn :=
  fun r hr => catalog_tellsOwn r (by simp_all [hostNetworkEngine, Engine.make, catalog])

def pullingPodText : String :=
  "\x7b\"request\":\x7b\"uid\":\"u\",\"namespace\":\"production\"," ++
    "\"object\":\x7b\"kind\":\"Pod\",\"spec\":\x7b\"containers\":[\x7b\"name\":\"web\"," ++
    "\"imagePullPolicy\":\"Always\"\x7d]\x7d\x7d\x7d\x7d"

def pullingPodBody : List UInt8 :=
  pullingPodText.toUTF8.data.toList

def pullingSpec : Value :=
  .record [("containers", .list [.record [("name", .text "web"),
    ("imagePullPolicy", .text "Always")]])]

def pullingPodReview : Value :=
  .record [("request", .record [("uid", .text "u"), ("namespace", .text "production"),
    ("object", .record [("kind", .text "Pod"), ("spec", pullingSpec)])])]

theorem pullingPodText_read : Json.read pullingPodText = .ok pullingPodReview :=
  toOption_some.mp (by decide +kernel)

theorem pullingPodBody_accepted :
    checkBody Declared.admissionReview pullingPodBody = .ok
      ((none, none, (("u", some (some "production"), none,
        some (some [("kind", .text "Pod"), ("spec", pullingSpec)]), ()), []), ()), []) :=
  checkBody_ok (by decide +kernel : Text.decodeDetected? pullingPodBody = some pullingPodText)
    pullingPodText_read (by decide +kernel) nofun rfl

def pullPolicyEngine : Engine :=
  Engine.make [Catalog.productionPullPolicy] [] 1

/-- Nothing is found in the pod as it stands; in the namespace of its request it is warned
of in audit mode and denied in every other. -/
theorem review_pullingPod :
    (∃ form, checkBody Declared.admissionReview pullingPodBody = .ok form ∧
      (AdmissionRequest.ofForm form).Metadata [] ∧
      pullPolicyEngine.evaluate (.mapping (AdmissionRequest.ofForm form).entries) = .ok []) ∧
    ((Webhook.mk pullPolicyEngine "audit").review pullingPodBody).Warns "u"
      ["Container web must not use imagePullPolicy Always in the production namespace"] ∧
    ((Webhook.mk pullPolicyEngine "enforce").review pullingPodBody).Denies "u" 403
      "Container web must not use imagePullPolicy Always in the production namespace" := by
  refine ⟨⟨_, pullingPodBody_accepted, .inr ⟨rfl, rfl⟩, rfl⟩, ?_⟩
  have hdecides := review_decides (e := pullPolicyEngine) pullingPodBody_accepted
    (.inr ⟨rfl, rfl⟩)
  obtain ⟨hwarns, hdenies⟩ := hdecides.2.2.1 [⟨"production-pull-policy",
    "Container web must not use imagePullPolicy Always in the production namespace", .policy, .low,
    "Image Security", some "web", none⟩] nofun nofun rfl
  exact ⟨hwarns, hdenies "enforce" (by decide)⟩

end Webhook

end PodPolicy
