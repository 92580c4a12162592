import PodPolicy.Proofs.Metadata
import PodPolicy.Proofs.NormalForm
import PodPolicy.Proofs.Parts

/-!
# One standing at three front ends

A manifest is posted for evaluation, is put under review with the namespace of a
request, or stands in a file that is checked. `frontEnds_agree`: wherever it goes it
complies, or violates by the same violations, or is not judged, and it is exactly
one of the three. A manifest with a number too long to be read from a body cannot be
posted, and is none of them.
-/

namespace PodPolicy

open Webhook

/-- How a manifest stands with the policy. -/
inductive Standing
  | compliant
  | violating (violations : List Violation)
  | unjudged

namespace Standing

def AtEvaluate (response : Response) : Standing → Prop
  | .compliant =>
    response.status = 200 ∧ response.body.at? ["compliant"] = some (.bool true) ∧
      response.body.at? ["violations"] = some (.list [])
  | .violating violations =>
    response.status = 200 ∧ response.body.at? ["compliant"] = some (.bool false) ∧
      response.body.at? ["violations"] = some (.list (violations.map Violation.toValue))
  | .unjudged =>
    response.status = 422 ∧ response.body.at? ["error"] = some (.text "Invalid document shape")

/-- What a review answers, in every mode but audit. -/
def AtReview (uid : String) (response : Response) : Standing → Prop
  | .compliant => response.Allows uid
  | .violating violations => response.Denies uid 403 ("; ".intercalate (messages violations))
  | .unjudged => ∃ message, response.Denies uid 400 message

def AtCheck (path : String) (format : Format) (outcome : Outcome) : Standing → Prop
  | .compliant => ∃ output, outcome = .finished 0 output ""
  | .violating violations => ∃ output, outcome = .finished 1 output "" ∧
      (format = .json → ∃ kind name : String, Json.read output = .ok (.list [.record [
        ("file", .text path), ("kind", .text kind), ("name", .text name),
        ("violations", .list (violations.map Violation.toValue))]]))
  | .unjudged => ∃ errors, outcome = .finished 2 "" errors

def ofViolations (violations : List Violation) : Standing :=
  if violations.isEmpty then .compliant else .violating violations

theorem AtEvaluate.unique {response : Response} {a b : Standing} (ha : a.AtEvaluate response)
    (hb : b.AtEvaluate response) : a = b := by
  cases a with
  | compliant =>
    cases b with
    | compliant => rfl
    | violating _ => cases ha.2.1.symm.trans hb.2.1
    | unjudged => cases ha.1.symm.trans hb.1
  | violating violations =>
    cases b with
    | compliant => cases ha.2.1.symm.trans hb.2.1
    | violating more =>
      have hlist := Value.list.inj (Option.some.inj (ha.2.2.symm.trans hb.2.2))
      rw [List.map_injective_iff.mpr Violation.toValue_injective hlist]
    | unjudged => cases ha.1.symm.trans hb.1
  | unjudged =>
    cases b with
    | unjudged => rfl
    | _ => cases ha.1.symm.trans hb.1

end Standing

variable {entries metadata : Entries} {violations : List Violation}

-- -----------------------------------------------------------------------------
-- Evaluation of a posted manifest
-- -----------------------------------------------------------------------------

namespace Webhook

variable {w : Webhook} {octets : List UInt8}

def evaluation (w : Webhook) (octets : List UInt8) : Response :=
  w.respond ⟨"POST", "/evaluate", octets⟩

theorem answer_evaluate :
    w.answer ⟨"POST", "/evaluate", octets⟩ = w.evaluateManifest octets := by
  have hroute : Route.ofPath? "/evaluate" = some .evaluate := rfl
  simp only [answer, hroute, Route.method]
  rfl

theorem checkBody_object (h : readBody octets = .ok (.mapping entries)) :
    ∃ fields, checkBody (.dict .any) octets = .ok fields ∧ Entries.ofNames fields = entries := by
  obtain ⟨fields, rfl, hnames, -⟩ := (readBody_isJson h).ofNames
  have hany : ∀ field ∈ fields, Schema.any.check (id field.2) = .ok field.2 := fun _ _ => rfl
  have hentries : checkEntries Schema.any.check (Entries.ofNames fields) = .ok fields := by
    simpa using checkEntries_write hany
  have hcheck : (Schema.dict .any).check (.mapping (Entries.ofNames fields)) = .ok fields :=
    map_ok.mpr ⟨fields, hentries, named_of_nodup hnames⟩
  exact ⟨fields, bind_ok.mpr ⟨_, h, by rw [hcheck]; rfl⟩, rfl⟩

theorem askName_ok (h : (entries.get "metadata").collapse (.mapping []) = .mapping metadata) :
    askName entries = .ok () := by
  unfold askName
  cases hgiven : entries.get "metadata" with
  | null => rfl
  | mapping own => cases own <;> rfl
  | _ =>
    rw [hgiven] at h
    cases h

section
variable (h : readBody octets = .ok (.mapping entries))
  (hmetadata : (entries.get "metadata").collapse (.mapping []) = .mapping metadata)
include h hmetadata

theorem evaluateManifest_error {u : Unjudged}
    (hjudged : w.engine.evaluate (.mapping entries) = .error u) :
    w.evaluateManifest octets = .error (.ofUnjudged u) := by
  obtain ⟨fields, hfields, rfl⟩ := checkBody_object h
  refine bind_error.mpr (.inr ⟨fields, hfields,
    bind_error.mpr (.inr ⟨(), askName_ok hmetadata, ?_⟩)⟩)
  split
  · rename_i hfound
    cases hjudged.symm.trans hfound
  · rename_i hfound
    cases hjudged.symm.trans hfound
    rfl

theorem evaluateManifest_ok (hjudged : w.engine.evaluate (.mapping entries) = .ok violations) :
    w.evaluateManifest octets = .ok (evaluationReport violations) := by
  obtain ⟨fields, hfields, rfl⟩ := checkBody_object h
  refine bind_ok.mpr ⟨fields, hfields, bind_ok.mpr ⟨(), askName_ok hmetadata, ?_⟩⟩
  split
  · rename_i hfound
    cases hjudged.symm.trans hfound
    rfl
  · rename_i hfound
    cases hjudged.symm.trans hfound

theorem evaluation_rejected (hrejects : w.engine.Rejects (.mapping entries)) :
    Standing.unjudged.AtEvaluate (w.evaluation octets) := by
  obtain ⟨s, hs⟩ := hrejects
  have hanswer : w.answer ⟨"POST", "/evaluate", octets⟩ = .error (.shape s.message s.details) := by
    rw [answer_evaluate, evaluateManifest_error h hmetadata hs]
    rfl
  rw [evaluation, respond, hanswer]
  exact ⟨rfl, rfl⟩

theorem evaluation_judged (hjudged : w.engine.evaluate (.mapping entries) = .ok violations) :
    (Standing.ofViolations violations).AtEvaluate (w.evaluation octets) := by
  have hanswer : w.answer ⟨"POST", "/evaluate", octets⟩ = .ok (evaluationReport violations) := by
    rw [answer_evaluate, evaluateManifest_ok h hmetadata hjudged]
  rw [evaluation, respond, hanswer]
  cases violations with
  | nil => exact ⟨rfl, rfl, rfl⟩
  | cons => exact ⟨rfl, rfl, rfl⟩

end

end Webhook

-- -----------------------------------------------------------------------------
-- The object of a review
-- -----------------------------------------------------------------------------

/-- The object under review, with the namespace of the request where it has none. -/
def AdmissionRequest.filled (request : AdmissionRequest) (metadata : Entries) : Entries :=
  if (metadata.get "namespace").isVoid ∧ request.namespaceName.getD "" ≠ "" then
    request.entries.put (.text "metadata")
      (.mapping (metadata.put (.text "namespace") (.text (request.namespaceName.getD ""))))
  else request.entries

section
variable {request : AdmissionRequest} {e : Engine}

/-- The object is judged with a mapping for its metadata, and that makes no difference. -/
theorem readPod_filled {found : Option Pod}
    (hmetadata : (request.entries.get "metadata").collapse (.mapping []) = .mapping metadata) :
    readPod (request.completed metadata) = .ok found ↔
      readPod (.mapping (request.filled metadata)) = .ok found := by
  unfold AdmissionRequest.filled
  split
  · rename_i hfill
    rw [AdmissionRequest.completed_placed, AdmissionRequest.placed, if_pos hfill]
  · rename_i hnothing
    have hsame : (request.entries.get "metadata").collapse (.mapping []) =
        ((request.entries.put (.text "metadata") (.mapping metadata)).get "metadata").collapse
          (.mapping []) := by
      rw [hmetadata, Entries.get_put_same]
      rfl
    have hkept : (metadata.get "namespace").isVoid = false ∨
        request.namespaceName.getD "" = "" := by
      rw [← Bool.not_eq_true]
      tauto
    rw [AdmissionRequest.completed, fillNamespace_kept hkept]
    exact ⟨readPod_same .put hsame, readPod_same .of_put hsame.symm⟩

theorem filled_metadata
    (hmetadata : (request.entries.get "metadata").collapse (.mapping []) = .mapping metadata) :
    ∃ own : Entries,
      ((request.filled metadata).get "metadata").collapse (.mapping []) = .mapping own := by
  unfold AdmissionRequest.filled
  split
  · exact ⟨_, by rw [Entries.get_put_same]; rfl⟩
  · exact ⟨metadata, hmetadata⟩

theorem filled_empty (h : request.entries = []) :
    e.Rejects (.mapping (request.filled metadata)) := by
  have hkind : (request.filled metadata).get "kind" = .null := by
    unfold AdmissionRequest.filled
    split
    · rw [Entries.get_put_other (by simp), h]
      rfl
    · rw [h]
      rfl
  have hread : readPod (.mapping (request.filled metadata)) = .error .missingKind := by
    simp only [readPod, Workload.extractPod, kindOf, hkind]
    rfl
  exact ⟨_, evaluate_error hread⟩

end

-- -----------------------------------------------------------------------------
-- Reviews
-- -----------------------------------------------------------------------------

namespace Webhook

variable {w : Webhook} {octets : List UInt8} {form : Declared.admissionReview.Form}

section
variable (h : checkBody Declared.admissionReview octets = .ok form)
  (hmetadata : ((AdmissionRequest.ofForm form).entries.get "metadata").collapse (.mapping []) =
    .mapping metadata)
include h hmetadata

theorem review_rejected
    (hrejects : w.engine.Rejects (.mapping ((AdmissionRequest.ofForm form).filled metadata))) :
    Standing.unjudged.AtReview (AdmissionRequest.ofForm form).uid (w.review octets) := by
  by_cases hempty : (AdmissionRequest.ofForm form).entries = []
  · rw [review_empty h hempty]
    exact ⟨_, told_denied⟩
  · have hentries := (AdmissionRequest.metadata_of_collapse hmetadata).entries
    obtain ⟨s, hs⟩ := (evaluate_same fun _ => readPod_filled hmetadata).1.mpr hrejects
    rw [review_judged h hempty hentries (by rw [hs]; rfl)]
    exact ⟨_, told_denied⟩

theorem review_violations (hmode : w.mode ≠ "audit")
    (hjudged : w.engine.evaluate (.mapping ((AdmissionRequest.ofForm form).filled metadata)) =
      .ok violations) :
    (Standing.ofViolations violations).AtReview (AdmissionRequest.ofForm form).uid
      (w.review octets) := by
  have hobject : (AdmissionRequest.ofForm form).entries ≠ [] := by
    intro hempty
    obtain ⟨s, hs⟩ := filled_empty (e := w.engine) hempty
    cases hs.symm.trans hjudged
  have hentries := (AdmissionRequest.metadata_of_collapse hmetadata).entries
  have houtcome := ((evaluate_same fun _ => readPod_filled hmetadata).2 violations).mpr hjudged
  cases violations with
  | nil =>
    rw [review_judged h hobject hentries (by rw [houtcome]; rfl)]
    exact told_allowed
  | cons first rest =>
    have hverdict := ofOutcome_enforce (List.cons_ne_nil first rest) hmode
    rw [review_judged h hobject hentries (by rw [houtcome, hverdict])]
    exact told_denied

end

end Webhook

-- -----------------------------------------------------------------------------
-- Checks
-- -----------------------------------------------------------------------------

namespace Check

variable {e : Engine} {files : Files} {path : String} {format : Format}

section
variable (hentries : (Value.mapping entries).IsJson)
  (hmetadata : (entries.get "metadata").collapse (.mapping []) = .mapping metadata)
  (hfile : loadFile files path = .ok [entries])
include hentries hmetadata hfile

theorem outcome_rejected (h : e.Rejects (.mapping entries)) :
    Standing.unjudged.AtCheck path format
      (Command.checkOutcome (print e files [path] format)) := by
  obtain ⟨s, hprint⟩ := print_rejected hentries hmetadata hfile format h
  rw [hprint]
  exact ⟨_, rfl⟩

theorem outcome_judged (h : e.evaluate (.mapping entries) = .ok violations) :
    (Standing.ofViolations violations).AtCheck path format
      (Command.checkOutcome (print e files [path] format)) := by
  rcases reports_judged hentries hmetadata hfile h with
    ⟨hreports, rfl⟩ | ⟨report, hreports, htells, hpod, rfl⟩
  · obtain ⟨output, -, hprint⟩ := print_ok format hreports nofun
    rw [hprint]
    exact ⟨output, rfl⟩
  · obtain ⟨_, hname, hjson⟩ := manifestName_ok hentries hmetadata
    have hoctets : ∀ octets, report.name ≠ .bytes octets := by
      intro octets h
      cases hname.symm.trans htells.name
      rw [h] at hjson
      cases hjson
    obtain ⟨output, hprints, hprint⟩ := print_ok format hreports (by
      simpa using htells.isTextual hpod hoctets)
    rw [hprint]
    cases hviolations : report.violations with
    | nil =>
      refine ⟨output, ?_⟩
      simp [Command.checkOutcome, Report.complies, hviolations, Command.compliantCode]
    | cons first rest =>
      refine ⟨output, ?_, ?_⟩
      · simp [Command.checkOutcome, Report.complies, hviolations, Command.violationsCode]
      · rintro rfl
        obtain ⟨kind, name, hkind, hname⟩ := htells.texts hpod hoctets
        refine ⟨kind, name, ?_⟩
        rw [Prints, List.map_singleton, htells.file, hkind, hname, hviolations] at hprints
        exact hprints

end

end Check

-- -----------------------------------------------------------------------------
-- All three
-- -----------------------------------------------------------------------------

/-- A manifest has one standing wherever it goes: posted for evaluation, under
review in any mode but audit, and alone in a file that is checked. The object under
review may lack the namespace of its request, and the rules that are switched off
may be named by the settings or behind the command. -/
theorem frontEnds_agree {served asked : Settings} {ids : List String}
    {review posted : List UInt8} {form : Declared.admissionReview.Form} {files : Files}
    {path : String} {format : Format} (hmode : served.mode ≠ "audit")
    (hdisabled : ∀ id, id ∈ served.disabledRules ↔ id ∈ asked.disabledRules ++ ids)
    (hreview : checkBody Declared.admissionReview review = .ok form)
    (hmetadata : ((AdmissionRequest.ofForm form).entries.get "metadata").collapse (.mapping []) =
      .mapping metadata)
    (hposted : readBody posted =
      .ok (.mapping ((AdmissionRequest.ofForm form).filled metadata)))
    (hfile : loadFile files path = .ok [(AdmissionRequest.ofForm form).filled metadata]) :
    ∃! standing : Standing,
      standing.AtEvaluate ((Webhook.ofSettings served).evaluation posted) ∧
      standing.AtReview (AdmissionRequest.ofForm form).uid
        ((Webhook.ofSettings served).review review) ∧
      standing.AtCheck path format
        (Command.outcome asked files (.check [path] format (ids.map some))) := by
  have hjson := readBody_isJson hposted
  obtain ⟨own, hown⟩ := filled_metadata hmetadata
  have hsame : (Command.engineFor asked ids).evaluate
      (.mapping ((AdmissionRequest.ofForm form).filled metadata)) =
        (Webhook.ofSettings served).engine.evaluate
          (.mapping ((AdmissionRequest.ofForm form).filled metadata)) := by
    refine evaluate_congr ?_
    simp only [Command.engineFor, Webhook.ofSettings, Engine.activeRules_make, hdisabled]
  rw [Check.outcome_check]
  refine existsUnique_of_exists_of_unique ?_ fun a b ha hb => ha.1.unique hb.1
  have hrules : ∀ r ∈ (Webhook.ofSettings served).engine.rules, r.TellsOwn := catalog_tellsOwn
  rcases evaluate_outcome hrules hjson.isTellable with hrejects | ⟨violations, hjudged⟩
  · have hasked : (Command.engineFor asked ids).Rejects
        (.mapping ((AdmissionRequest.ofForm form).filled metadata)) := by
      rw [Engine.Rejects, hsame]
      exact hrejects
    exact ⟨.unjudged, evaluation_rejected hposted hown hrejects,
      review_rejected hreview hmetadata hrejects, Check.outcome_rejected hjson hown hfile hasked⟩
  · exact ⟨.ofViolations violations, evaluation_judged hposted hown hjudged,
      review_violations hreview hmetadata hmode hjudged,
      Check.outcome_judged hjson hown hfile (hsame.trans hjudged)⟩

def webPod : Entries :=
  [(.text "kind", .text "Pod"), (.text "spec", .record [("hostNetwork", .bool true)]),
    (.text "metadata", .record [("namespace", .text "web")])]

def webPodText : String :=
  "\x7b\"kind\":\"Pod\",\"spec\":\x7b\"hostNetwork\":true\x7d," ++
    "\"metadata\":\x7b\"namespace\":\"web\"\x7d\x7d"

def webPodBody : List UInt8 :=
  webPodText.toUTF8.data.toList

def webPodFiles : Files :=
  fun _ => .octets webPodBody

theorem webPodText_read : Json.read webPodText = .ok (.mapping webPod) :=
  toOption_some.mp (by decide +kernel)

theorem webPodBody_read : readBody webPodBody = .ok (.mapping webPod) :=
  readBody_ok (by decide +kernel : Text.decodeDetected? webPodBody = some webPodText)
    webPodText_read (by decide +kernel) nofun

theorem webPodFiles_load : loadFile webPodFiles "pod.json" = .ok [webPod] :=
  toOption_some.mp (by decide +kernel)

def enforcing : Settings :=
  ⟨"INFO", ["host-pid", "nobody"], "enforce", "0.0.0.0", 8443, 4⟩

def auditing : Settings :=
  ⟨"INFO", ["nobody"], "audit", "0.0.0.0", 8443, 1⟩

/-- A pod on the host's network has one standing with a rule switched off, be it by
the settings or behind the command. -/
theorem frontEnds_webPod :
    ∃ form, checkBody Declared.admissionReview hostPodBody = .ok form ∧
      (AdmissionRequest.ofForm form).filled [] = webPod ∧
      ∃! standing : Standing,
        standing.AtEvaluate ((Webhook.ofSettings enforcing).evaluation webPodBody) ∧
        standing.AtReview "u" ((Webhook.ofSettings enforcing).review hostPodBody) ∧
        standing.AtCheck "pod.json" .json (Command.outcome auditing webPodFiles
          (.check ["pod.json"] .json [some "host-pid"])) := by
  refine ⟨_, hostPodBody_accepted, rfl, ?_⟩
  exact @frontEnds_agree [] enforcing auditing ["host-pid"] _ _ _ _ _ _ (by simp [enforcing])
    (by simp [enforcing, auditing, or_comm]) hostPodBody_accepted rfl webPodBody_read
    webPodFiles_load

-- -----------------------------------------------------------------------------
-- Numbers that are too long for a body
-- -----------------------------------------------------------------------------

section
open Json Numeral Text

def longNumber (k : Nat) : Entries :=
  [(.text "n", .int (10 ^ k : Nat)), (.text "kind", .text "Service")]

def longNumberText (k : Nat) : String :=
  String.ofList ('\x7b' :: '"' :: 'n' :: '"' :: ':' :: ' ' :: '1' ::
    (List.replicate k '0' ++ ", \"kind\": \"Service\"\x7d".toList))

def longNumberBody (k : Nat) : List UInt8 :=
  (longNumberText k).toUTF8.data.toList

theorem toDigits_pow (k : Nat) : Nat.toDigits 10 (10 ^ k) = '1' :: List.replicate k '0' := by
  induction k with
  | zero => rfl
  | succ k ih =>
    have hlast : Nat.toDigits 10 (10 ^ k) ++ Nat.toDigits 10 0 =
        Nat.toDigits 10 (10 * 10 ^ k + 0) :=
      Nat.toDigits_append_toDigits (by decide) (Nat.pow_pos (by decide)) (by decide)
    rw [pow_succ', ← Nat.add_zero (10 * 10 ^ k), ← hlast, ih, List.replicate_succ']
    rfl

theorem toString_pow (k : Nat) :
    toString ((10 ^ k : Nat) : Int) = String.ofList ('1' :: List.replicate k '0') := by
  have hrepr : toString ((10 ^ k : Nat) : Int) = Nat.repr (10 ^ k) := rfl
  rw [hrepr, Nat.repr_eq_ofList_toDigits, toDigits_pow]

theorem write_longNumber (k : Nat) :
    Json.write .inline (.mapping (longNumber k)) = .ok (longNumberText k) := by
  simp only [Json.write, longNumber, writeAt, writeEntries, writeKey, toString_pow, bind,
    Except.bind, pure, Except.pure]
  refine congrArg Except.ok (String.toList_injective ?_)
  simp [Layout.enclose, Layout.inline, Layout.lineStart, longNumberText, writeText, escaped]

theorem longNumberBody_octets (k : Nat) :
    ∃ rest, longNumberBody k = 123 :: 34 :: 110 :: 34 :: rest := by
  have hcons (c : Char) (cs : List Char) : (c :: cs).utf8Encode.data.toList =
      String.utf8EncodeChar c ++ cs.utf8Encode.data.toList := by
    rw [List.utf8Encode_cons, List.utf8Encode_singleton]
    simp
  rw [longNumberBody, String.toUTF8, longNumberText, String.toByteArray_ofList, hcons, hcons,
    hcons, hcons]
  exact ⟨_, rfl⟩

theorem decode_longNumber (k : Nat) :
    decodeDetected? (longNumberBody k) = some (longNumberText k) := by
  obtain ⟨rest, hrest⟩ := longNumberBody_octets k
  have hdetect : detectEncoding (longNumberBody k) = (.utf8, longNumberBody k) := by
    rw [hrest]
    rfl
  rw [decodeDetected?, hdetect]
  exact dif_pos (longNumberText k).isValidUTF8

/-- The reader stops at the number, which comes first. -/
theorem read_longNumber {k : Nat} (h : maxDecimalDigits ≤ k) :
    ∃ position, Json.read (longNumberText k) = .error ⟨.tooManyDigits, position⟩ := by
  obtain ⟨tail, htext⟩ : ∃ tail, (longNumberText k).toList =
      '\x7b' :: '"' :: 'n' :: '"' :: ':' :: ' ' :: '1' :: (List.replicate k '0' ++ ',' :: tail) :=
    ⟨_, String.toList_ofList⟩
  have hdigits : ∀ d ∈ List.replicate k '0', isAsciiDigit d = true := by
    intro d hd
    rw [List.eq_of_mem_replicate hd]
    rfl
  have hnumber : readNumber ('1' :: (List.replicate k '0' ++ ',' :: tail)) =
      .error ⟨.tooManyDigits, '1' :: (List.replicate k '0' ++ ',' :: tail)⟩ :=
    readNumber_tooLong (by decide) (by decide) hdigits (by simpa using h)
  generalize List.replicate k '0' ++ ',' :: tail = digits at htext hnumber
  have hvalue (fuel : Nat) : readValue (fuel + 1) ('1' :: digits) =
      .error ⟨.tooManyDigits, '1' :: digits⟩ := by
    rw [readValue]
    · exact hnumber
    all_goals simp
  have hmembers (fuel : Nat) :
      readMembers (fuel + 2) ('"' :: 'n' :: '"' :: ':' :: ' ' :: '1' :: digits) =
        .error ⟨.tooManyDigits, '1' :: digits⟩ := by
    rw [readMembers]
    exact bind_error.mpr (.inr ⟨("n", ':' :: ' ' :: '1' :: digits), rfl,
      bind_error.mpr (.inr ⟨'1' :: digits, rfl, bind_error.mpr (.inl (hvalue fuel))⟩)⟩)
  have hobject (fuel : Nat) : readValue (fuel + 3) (longNumberText k).toList =
      .error ⟨.tooManyDigits, '1' :: digits⟩ := by
    rw [htext, readValue]
    exact bind_error.mpr (.inl (hmembers fuel))
  have hspace : skipSpace (longNumberText k).toList = (longNumberText k).toList := by
    rw [htext]
    rfl
  have hwhole : readWhole (longNumberText k).toList = .error ⟨.tooManyDigits, '1' :: digits⟩ := by
    have hlength : 3 ≤ 2 * (longNumberText k).toList.length + 2 := by
      rw [htext, List.length_cons]
      omega
    obtain ⟨fuel, hfuel⟩ := Nat.exists_eq_add_of_le' hlength
    rw [readWhole, hspace, hfuel, hobject]
    rfl
  exact ⟨_, by rw [Json.read, hwhole]⟩

theorem Webhook.evaluation_longNumber {w : Webhook} {k : Nat} (h : maxDecimalDigits ≤ k) :
    ∃ text, Json.write .inline (.mapping (longNumber k)) = .ok text ∧
      w.evaluation text.toUTF8.data.toList = Failure.unreadableBody.response "/evaluate" := by
  obtain ⟨rest, hrest⟩ := longNumberBody_octets k
  obtain ⟨position, hread⟩ := read_longNumber h
  have hne : (longNumberBody k).isEmpty = false := by
    rw [hrest]
    rfl
  have hbody : readBody (longNumberBody k) = .error .unreadableBody := by
    simp only [readBody, hne, decode_longNumber, hread]
    rfl
  have hanswer : w.answer ⟨"POST", "/evaluate", longNumberBody k⟩ = .error .unreadableBody := by
    rw [answer_evaluate]
    exact bind_error.mpr (.inl (bind_error.mpr (.inl hbody)))
  refine ⟨longNumberText k, write_longNumber k, ?_⟩
  rw [← longNumberBody, evaluation, respond, hanswer]

/-- A manifest with a number of 4301 digits has no standing where it is posted. -/
theorem frontEnds_longNumber :
    ∃ text, Json.write .inline (.mapping (longNumber 4300)) = .ok text ∧
      ∃ response, (Webhook.ofSettings enforcing).evaluation text.toUTF8.data.toList = response ∧
        response.status = 400 ∧ ¬∃ standing : Standing, standing.AtEvaluate response := by
  obtain ⟨text, htext, hanswer⟩ :=
    Webhook.evaluation_longNumber (w := Webhook.ofSettings enforcing) (k := 4300) (by decide)
  refine ⟨text, htext, _, hanswer, rfl, ?_⟩
  rintro ⟨standing, h⟩
  cases standing <;> cases h.1

end

end PodPolicy
