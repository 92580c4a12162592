import PodPolicy.Proofs.Checking
import PodPolicy.Proofs.Independence
import PodPolicy.Proofs.Template

/-!
# What a check comes upon

A check goes through the manifests of its files in order, and through the files
that give none. Each such part has a report, nothing if its kind carries no pod, or
an obstacle, and the first obstacle ends the check. `Part.outcome_fault` and
`Part.outcome_told` say of which parts an obstacle is a fault and of which it is
told; neither depends on the parts around it.
-/

namespace PodPolicy.Check

open Workload

-- -----------------------------------------------------------------------------
-- Parts
-- -----------------------------------------------------------------------------

/-- A file that gives no manifests, or a manifest of one that does. -/
inductive Part
  | unread (path : String) (obstacle : Obstacle)
  | manifest (path : String) (entries : Entries)

def partsOf (files : Files) (path : String) : List Part :=
  match loadFile files path with
  | .error obstacle => [.unread path obstacle]
  | .ok all => all.map (.manifest path)

def parts (files : Files) (paths : List String) : List Part :=
  paths.flatMap (partsOf files)

def Part.outcome (e : Engine) : Part → Except Obstacle (Option Report)
  | .unread _ obstacle => .error obstacle
  | .manifest path entries => Check.manifest e path entries

variable {e : Engine} {files : Files} {path : String} {paths : List String} {entries : Entries}

theorem file_parts : file e files path =
    ((partsOf files path).mapM (Part.outcome e)).map (·.filterMap id) := by
  unfold file partsOf
  cases loadFile files path with
  | error obstacle => rfl
  | ok all =>
    have hmanifests : (all.map (Part.manifest path)).mapM (Part.outcome e) =
        all.mapM (manifest e path) := by rw [List.mapM_map]; rfl
    show manifests e path all = _
    rw [hmanifests]
    rfl

theorem reports_parts : reports e files paths =
    ((parts files paths).mapM (Part.outcome e)).map (·.filterMap id) := by
  unfold reports parts
  induction paths with
  | nil => rfl
  | cons path rest ih =>
    rw [List.mapM_cons, List.flatMap_cons, List.mapM_append, file_parts]
    cases (partsOf files path).mapM (Part.outcome e) with
    | error obstacle => rfl
    | ok found =>
      cases hfiles : rest.mapM (file e files) with
      | error obstacle =>
        rw [hfiles] at ih
        have hparts := map_error.mp ih.symm
        rw [hparts]
        rfl
      | ok all =>
        rw [hfiles] at ih
        obtain ⟨more, hparts, hmore⟩ := map_ok.mp ih.symm
        rw [hparts]
        refine congrArg Except.ok ?_
        show found.filterMap id ++ all.flatten = (found ++ more).filterMap id
        rw [List.filterMap_append, hmore]

-- -----------------------------------------------------------------------------
-- Kinds and names
-- -----------------------------------------------------------------------------

def isPodless (entries : Entries) : Bool :=
  podlessKinds.any fun kind => (entries.get "kind").isText kind

/-- Metadata that can be asked for a name. -/
def HoldsName (metadata : Value) : Prop :=
  metadata.isVoid = true ∨ ∃ own, metadata = .mapping own

variable {name v : Value} {pod : Pod} {own : Entries} {given : Option String}

theorem isPodless_iff : isPodless entries = true ↔ extractPod (.mapping entries) = .ok none := by
  simp only [isPodless, List.any_eq_true, Value.isText_iff, extractPod_none]

theorem readPod_podless (h : isPodless entries = true) : readPod (.mapping entries) = .ok none :=
  readPod_none.mpr (isPodless_iff.mp h)

theorem exists_manifestName :
    (∃ name, manifestName entries = .ok name) ↔ HoldsName (entries.get "metadata") := by
  unfold manifestName HoldsName
  by_cases hvoid : (entries.get "metadata").isVoid = true
  · simp [hvoid]
  · cases hgiven : entries.get "metadata" <;> simp_all

theorem manifestName_error {obstacle : Obstacle} (h : manifestName entries = .error obstacle) :
    obstacle = .fault .fieldOfOther := by
  unfold manifestName at h
  dsimp only at h
  split at h
  · cases h
  · split at h <;> cases h
    rfl

theorem readText_ok {s : String} (h : Schema.text.check v = .ok s) :
    v = .text s ∨ ∃ octets, v = .bytes octets := by
  replace h := Checked.ofExcept_ok.mp h
  unfold Scalar.readText at h
  split at h
  · cases h
    exact .inl rfl
  · exact .inr ⟨_, rfl⟩
  · cases h

theorem name_of_metadata (hown : (entries.get "metadata").collapse (.mapping []) = .mapping own)
    (hread : (own.get "name").readOptional Schema.text.check = .ok given)
    (hname : manifestName entries = .ok name) :
    (∃ s, name = .text s) ∨ ∃ octets, name = .bytes octets := by
  unfold manifestName at hname
  dsimp only at hname
  split at hname
  · cases hname
    exact .inl ⟨_, rfl⟩
  · split at hname
    · rename_i entries' hmapping
      rw [hmapping] at hown
      cases hown
      cases hname
      unfold Value.orElse
      split
      · exact .inl ⟨_, rfl⟩
      · rename_i hvoid
        have hne : own.get "name" ≠ .null := by
          intro h
          rw [h] at hvoid
          exact hvoid rfl
        rw [Value.readOptional_some hne] at hread
        obtain ⟨s, hs, -⟩ := map_ok.mp hread
        exact (readText_ok hs).imp_left fun h => ⟨s, h⟩
    · cases hname

theorem name_of_readPod (hname : manifestName entries = .ok name)
    (hpod : readPod (.mapping entries) = .ok (some pod)) :
    (∃ s, name = .text s) ∨ ∃ octets, name = .bytes octets := by
  obtain ⟨view, document, hview, hdocument, rfl⟩ := readPod_some.mp hpod
  obtain ⟨_, -, hmatch⟩ := bind_ok.mp hdocument
  have hself (h : Value.mapping entries = view) :
      (∃ s, name = .text s) ∨ ∃ octets, name = .bytes octets := by
    subst h
    obtain ⟨_, metadata, _, -, -, -, -, hcheck, -⟩ := pod_parts hmatch
    obtain ⟨own, hown⟩ := record_mapping hcheck
    rw [hown] at hcheck
    exact name_of_metadata hown (metadata_ok.mp ⟨_, hcheck, rfl⟩).1 hname
  obtain ⟨kind, -, ⟨-, h⟩ | ⟨-, -, hother⟩⟩ := extractPod_some.mp hview
  · exact hself h
  · obtain ⟨spec, -, ⟨place, -, hplace⟩ | ⟨-, -, h⟩⟩ := podOfOther_ok.mp hother
    · obtain ⟨template, owner, templateMetadata, -, howner, -, rfl⟩ := podOfTemplate_ok.mp hplace
      obtain ⟨_, metadata, _, -, -, -, -, hcheck, -⟩ := pod_parts hmatch
      exact name_of_metadata (asMapping_ok.mp howner) (metadata_ok.mp ⟨_, hcheck, rfl⟩).1 hname
    · exact hself h

-- -----------------------------------------------------------------------------
-- One manifest
-- -----------------------------------------------------------------------------

/-- A number that is too long would have to be told, in the name of a manifest that
is left out or in a violation. -/
def Untold (e : Engine) (entries : Entries) : Prop :=
  (isPodless entries = true ∧ ∃ name, manifestName entries = .ok name ∧ name.isTellable = false) ∨
    ∃ pod, readPod (.mapping entries) = .ok (some pod) ∧ e.canTell pod = false

theorem evaluate_rejected {s : ShapeError} : e.evaluate (.mapping entries) = .error (.shape s) ↔
    readPod (.mapping entries) = .error s := by
  cases hread : readPod (.mapping entries) with
  | error s' => simp [PodPolicy.evaluate_error hread]
  | ok found =>
    cases found with
    | none => simp [evaluate_none hread]
    | some pod => simp [evaluate_some hread, mapError_error]

theorem evaluate_fault {f : Fault} (h : e.evaluate (.mapping entries) = .error (.fault f)) :
    f = .untellableNumber ∧
      ∃ pod, readPod (.mapping entries) = .ok (some pod) ∧ e.canTell pod = false := by
  cases hread : readPod (.mapping entries) with
  | error s =>
    rw [PodPolicy.evaluate_error hread] at h
    cases h
  | ok found =>
    cases found with
    | none =>
      rw [evaluate_none hread] at h
      cases h
    | some pod =>
      rw [evaluate_some hread] at h
      obtain ⟨fault, hverdict, heq⟩ := mapError_error.mp h
      cases heq
      refine ⟨Engine.verdict_error hverdict, pod, rfl, ?_⟩
      unfold Engine.verdict at hverdict
      split at hverdict
      · cases hverdict
      · exact Bool.eq_false_iff.mpr ‹_›

theorem untold_podless (hname : manifestName entries = .ok name) (h : isPodless entries = true) :
    Untold e entries ↔ name.isTellable = false := by
  simp [Untold, h, hname, readPod_podless h]

theorem untold_subject (h : isPodless entries = false) :
    Untold e entries ↔ e.evaluate (.mapping entries) = .error (.fault .untellableNumber) := by
  simp only [Untold, h, Bool.false_eq_true, false_and, false_or]
  constructor
  · rintro ⟨pod, hread, htell⟩
    rw [evaluate_some hread, Engine.verdict, if_neg (by simp [htell])]
    rfl
  · exact fun h => (evaluate_fault h).2

theorem manifest_nameless (h : ¬HoldsName (entries.get "metadata")) :
    manifest e path entries = .error (.fault .fieldOfOther) := by
  cases hname : manifestName entries with
  | ok name => exact absurd (exists_manifestName.mp ⟨name, hname⟩) h
  | error obstacle =>
    rw [manifest, hname, manifestName_error hname]
    rfl

theorem manifest_skipped (hname : manifestName entries = .ok name) (h : isPodless entries = true) :
    manifest e path entries =
      if name.isTellable then .ok none else .error (.fault .untellableNumber) := by
  rw [manifest, hname, isPodless_iff.mp h]
  rfl

theorem manifest_evaluated (hname : manifestName entries = .ok name)
    (h : isPodless entries = false) : manifest e path entries =
      ((e.evaluate (.mapping entries)).mapError ofUnjudged).map fun violations =>
        some ⟨path, entries.get "kind", name, violations⟩ := by
  cases hview : extractPod (.mapping entries) with
  | error s =>
    have hread : readPod (.mapping entries) = .error s := bind_error.mpr (.inl hview)
    rw [manifest, hname, hview, PodPolicy.evaluate_error hread]
    rfl
  | ok found =>
    cases found with
    | none =>
      rw [isPodless_iff.mpr hview] at h
      cases h
    | some view =>
      rw [manifest, hname, hview]
      cases e.evaluate (.mapping entries) <;> rfl

section
variable {report : Report} (htells : Tells e (path, entries) report)
  (hpod : ∃ pod, readPod (.mapping entries) = .ok (some pod))
  (hname : ∀ octets, report.name ≠ .bytes octets)
include htells hpod hname

theorem Tells.texts : ∃ kind name, report.kind = .text kind ∧ report.name = .text name := by
  obtain ⟨pod, hpod⟩ := hpod
  obtain ⟨view, -, hview, -, -⟩ := readPod_some.mp hpod
  obtain ⟨kind, ⟨hkind, -⟩, -⟩ := extractPod_some.mp hview
  obtain ⟨s, hs⟩ | ⟨octets, hoctets⟩ := name_of_readPod htells.name hpod
  · exact ⟨kind, s, htells.kind.trans hkind, hs⟩
  · exact absurd hoctets (hname octets)

theorem Tells.isTextual : report.toValue.IsTextual := by
  obtain ⟨kind, name, hkind, hname⟩ := htells.texts hpod hname
  refine Report.toValue_isTextual ?_ ?_
  · rw [hkind]
    exact .text
  · rw [hname]
    exact .text

end

-- -----------------------------------------------------------------------------
-- What a part comes to
-- -----------------------------------------------------------------------------

namespace Part

/-- A file that cannot be loaded fails, and so does a manifest without the shape of
a workload; either is told by a message. -/
def Fails (e : Engine) : Part → String → Prop
  | .unread _ obstacle, message => obstacle.message? = some message
  | .manifest _ entries, message =>
    ∃ s : ShapeError, e.evaluate (.mapping entries) = .error (.shape s) ∧ s.toText = message

def Violates (e : Engine) : Part → Prop
  | .unread .. => False
  | .manifest _ entries =>
    ∃ violations, violations ≠ [] ∧ e.evaluate (.mapping entries) = .ok violations

def Faults (e : Engine) : Part → Fault → Prop
  | .unread _ obstacle, f => obstacle = .fault f
  | .manifest _ entries, f =>
    ¬HoldsName (entries.get "metadata") ∧ f = .fieldOfOther ∨
      HoldsName (entries.get "metadata") ∧ Untold e entries ∧ f = .untellableNumber

def Clear (e : Engine) (part : Part) : Prop :=
  (∀ f, ¬part.Faults e f) ∧ ∀ message, ¬part.Fails e message

def HasOctets : Part → Prop
  | .unread .. => False
  | .manifest _ entries =>
    isPodless entries = false ∧ ∃ octets, manifestName entries = .ok (.bytes octets)

def subject? : Part → Option (String × Entries)
  | .unread .. => none
  | .manifest path entries => if isPodless entries then none else some (path, entries)

variable {part : Part} {f : Fault} {message : String} {report : Report}

theorem outcome_fault : part.outcome e = .error (.fault f) ↔ part.Faults e f := by
  cases part with
  | unread path obstacle => simp [outcome, Faults]
  | manifest path entries =>
    simp only [outcome, Faults]
    by_cases hmetadata : HoldsName (entries.get "metadata")
    · obtain ⟨name, hname⟩ := exists_manifestName.mpr hmetadata
      simp only [hmetadata, not_true, false_and, true_and, false_or]
      cases hpodless : isPodless entries with
      | true =>
        rw [manifest_skipped hname hpodless, untold_podless hname hpodless]
        cases name.isTellable <;> simp [eq_comm]
      | false =>
        rw [manifest_evaluated hname hpodless, untold_subject hpodless, map_error, mapError_error]
        constructor
        · rintro ⟨unjudged, h, heq⟩
          cases unjudged with
          | shape s => cases heq
          | fault g =>
            cases heq
            obtain rfl := (evaluate_fault h).1
            exact ⟨h, rfl⟩
        · rintro ⟨h, rfl⟩
          exact ⟨_, h, rfl⟩
    · rw [manifest_nameless hmetadata]
      simp [hmetadata, eq_comm]

theorem message_none {obstacle : Obstacle} :
    obstacle.message? = none ↔ ∃ f, obstacle = .fault f := by
  cases obstacle <;> simp [Obstacle.message?]

theorem outcome_told : (∃ obstacle, part.outcome e = .error obstacle ∧
    obstacle.message? = some message) ↔ (∀ f, ¬part.Faults e f) ∧ part.Fails e message := by
  simp only [← outcome_fault]
  cases part with
  | unread path obstacle =>
    simp only [outcome, Fails, Except.error.injEq, exists_eq_left']
    refine (and_iff_right_of_imp ?_).symm
    rintro hmessage f rfl
    cases hmessage
  | manifest path entries =>
    simp only [outcome, Fails]
    by_cases hmetadata : HoldsName (entries.get "metadata")
    · obtain ⟨name, hname⟩ := exists_manifestName.mpr hmetadata
      cases hpodless : isPodless entries with
      | true =>
        rw [manifest_skipped hname hpodless, evaluate_none (readPod_podless hpodless)]
        cases name.isTellable <;> simp [Obstacle.message?]
      | false =>
        rw [manifest_evaluated hname hpodless]
        cases e.evaluate (.mapping entries) with
        | ok violations => simp [Except.mapError, Except.map]
        | error unjudged =>
          cases unjudged <;> simp [Except.mapError, Except.map, ofUnjudged, Obstacle.message?]
    · rw [manifest_nameless hmetadata]
      simp [Obstacle.message?]

theorem outcome_ok {found : Option Report} (h : part.outcome e = .ok found) :
    part.subject? = none ∧ found = none ∨
      ∃ subject report, part.subject? = some subject ∧ found = some report ∧
        Tells e subject report := by
  cases part with
  | unread path obstacle => cases h
  | manifest path entries =>
    simp only [outcome] at h
    by_cases hmetadata : HoldsName (entries.get "metadata")
    · obtain ⟨name, hname⟩ := exists_manifestName.mpr hmetadata
      cases hpodless : isPodless entries with
      | true =>
        rw [manifest_skipped hname hpodless] at h
        split at h <;> cases h
        exact .inl ⟨if_pos hpodless, rfl⟩
      | false =>
        rw [manifest_evaluated hname hpodless] at h
        obtain ⟨violations, hviolations, rfl⟩ := map_ok.mp h
        exact .inr ⟨_, _, if_neg (by simp [hpodless]), rfl, rfl, rfl, hname,
          mapError_ok.mp hviolations⟩
    · rw [manifest_nameless hmetadata] at h
      cases h

/-- Reports stand for the manifests that are subject to the policy, one for each and
in their order. -/
theorem reports_tell {all : List Part} {found : List (Option Report)}
    (h : all.mapM (outcome e) = .ok found) :
    List.Forall₂ (Tells e) (all.filterMap subject?) (found.filterMap id) := by
  replace h := mapM_ok.mp h
  induction h with
  | nil => exact .nil
  | cons hpart _ ih =>
    obtain ⟨hsubject, rfl⟩ | ⟨subject, report, hsubject, rfl, htells⟩ := outcome_ok hpart
    · rw [List.filterMap_cons_none hsubject]
      exact ih
    · rw [List.filterMap_cons_some hsubject]
      exact .cons htells ih

/-- A part comes to an end of three kinds: a fault, a failure that is told, or none. -/
theorem outcome_clear : (∃ found, part.outcome e = .ok found) ↔ part.Clear e := by
  cases hpart : part.outcome e with
  | ok found =>
    have hfaults : ∀ f, ¬part.Faults e f := fun f hf => by
      cases hpart.symm.trans (outcome_fault.mpr hf)
    refine iff_of_true ⟨found, rfl⟩ ⟨hfaults, fun message hfails => ?_⟩
    obtain ⟨_, h, -⟩ := outcome_told.mpr ⟨hfaults, hfails⟩
    cases hpart.symm.trans h
  | error obstacle =>
    refine iff_of_false (by simp) ?_
    rintro ⟨hfaults, hfails⟩
    cases hmessage : obstacle.message? with
    | none =>
      obtain ⟨f, rfl⟩ := message_none.mp hmessage
      exact hfaults f (outcome_fault.mp hpart)
    | some message => exact hfails message (outcome_told.mp ⟨obstacle, hpart, hmessage⟩).2

end Part

end PodPolicy.Check
