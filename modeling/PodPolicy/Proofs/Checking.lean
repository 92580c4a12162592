import PodPolicy.Proofs.Outcome
import PodPolicy.Proofs.Printing

/-!
# Checks of files

What a check makes of one manifest: a report, nothing for a kind without pods, or
an obstacle. `Check.reports_judged` and `Check.print_rejected` lead from how the
manifest is evaluated to how a check ends whose one file holds no other.
-/

namespace PodPolicy

namespace Check

theorem outcome_check {settings : Settings} {files : Files} {paths ids : List String}
    {format : Format} : Command.outcome settings files (.check paths format (ids.map some)) =
      Command.checkOutcome (print (Command.engineFor settings ids) files paths format) := by
  have hids : (ids.map some).mapM id = some ids := by
    induction ids with
    | nil => rfl
    | cons first rest ih =>
      rw [List.map_cons, List.mapM_cons, ih]
      rfl
  rw [Command.outcome, hids]

-- -----------------------------------------------------------------------------
-- One manifest
-- -----------------------------------------------------------------------------

section
variable {e : Engine} {path : String} {entries : Entries} {name : Value}
  {violations : List Violation}

theorem manifestName_ok {metadata : Entries} (hentries : (Value.mapping entries).IsJson)
    (hmetadata : (entries.get "metadata").collapse (.mapping []) = .mapping metadata) :
    ∃ name, manifestName entries = .ok name ∧ name.IsJson := by
  have hjson : (entries.get "metadata").IsJson := hentries.get
  unfold manifestName
  cases hgiven : entries.get "metadata" with
  | null => exact ⟨_, rfl, .text⟩
  | mapping own =>
    rw [hgiven] at hjson
    cases own with
    | nil => exact ⟨_, rfl, .text⟩
    | cons entry rest =>
      refine ⟨_, rfl, ?_⟩
      unfold Value.orElse
      split
      · exact .text
      · exact hjson.get
  | _ =>
    rw [hgiven] at hmetadata
    cases hmetadata

theorem manifest_podless (hname : manifestName entries = .ok name) (hjson : name.IsJson)
    (h : Workload.extractPod (.mapping entries) = .ok none) :
    manifest e path entries = .ok none := by
  have htell : name.isTellable = true := hjson.isTellable
  refine bind_ok.mpr ⟨name, hname, bind_ok.mpr ⟨none, mapError_ok.mpr h, ?_⟩⟩
  rw [if_pos htell]
  rfl

/-- A report tells the file, the kind and the name of a manifest and what is found
in it. -/
structure Tells (e : Engine) (subject : String × Entries) (report : Report) : Prop where
  file : report.file = subject.1
  kind : report.kind = subject.2.get "kind"
  name : manifestName subject.2 = .ok report.name
  violations : e.evaluate (.mapping subject.2) = .ok report.violations

theorem manifest_judged {view : Value} (hname : manifestName entries = .ok name)
    (hview : Workload.extractPod (.mapping entries) = .ok (some view))
    (h : e.evaluate (.mapping entries) = .ok violations) :
    manifest e path entries = .ok (some ⟨path, entries.get "kind", name, violations⟩) :=
  bind_ok.mpr ⟨name, hname, bind_ok.mpr ⟨some view, mapError_ok.mpr hview,
    bind_ok.mpr ⟨violations, mapError_ok.mpr h, rfl⟩⟩⟩

theorem manifest_rejected (hname : manifestName entries = .ok name)
    (h : e.Rejects (.mapping entries)) : ∃ s, manifest e path entries = .error (.shape s) := by
  obtain ⟨s, h⟩ := h
  cases hview : Workload.extractPod (.mapping entries) with
  | error s =>
    have herror : (Workload.extractPod (.mapping entries)).mapError Obstacle.shape =
        .error (.shape s) := by
      rw [hview]
      rfl
    exact ⟨s, bind_error.mpr (.inr ⟨name, hname, bind_error.mpr (.inl herror)⟩)⟩
  | ok found =>
    cases found with
    | none =>
      rw [evaluate_none (readPod_none.mpr hview)] at h
      cases h
    | some view =>
      refine ⟨s, bind_error.mpr (.inr ⟨name, hname, bind_error.mpr (.inr ⟨some view,
        mapError_ok.mpr hview, bind_error.mpr (.inl ?_)⟩)⟩)⟩
      rw [h]
      rfl

end

-- -----------------------------------------------------------------------------
-- One file
-- -----------------------------------------------------------------------------

section
variable {e : Engine} {files : Files} {path : String} {entries metadata : Entries}
  {violations : List Violation}

theorem reports_lone (hfile : loadFile files path = .ok [entries]) :
    reports e files [path] = (manifest e path entries).map Option.toList := by
  have hmanifests : file e files path = (manifest e path entries).map Option.toList := by
    rw [file, hfile]
    simp only [bind, Except.bind, manifests, List.mapM_cons, List.mapM_nil]
    cases manifest e path entries with
    | error obstacle => rfl
    | ok found => cases found <;> rfl
  simp only [reports, List.mapM_cons, List.mapM_nil, hmanifests]
  cases manifest e path entries with
  | error obstacle => rfl
  | ok found => cases found <;> rfl

theorem print_ok (format : Format) {rs : List Report} (hreports : reports e files [path] = .ok rs)
    (h : ∀ r ∈ rs, r.toValue.IsTextual) : ∃ output, Prints rs output format ∧
      print e files [path] format = .ok (output, rs.all Report.complies) := by
  obtain ⟨output, hrender, hprints⟩ := @render_prints format rs fun _ => h
  exact ⟨output, hprints, bind_ok.mpr ⟨rs, hreports, bind_ok.mpr ⟨output, hrender, rfl⟩⟩⟩

variable (hentries : (Value.mapping entries).IsJson)
  (hmetadata : (entries.get "metadata").collapse (.mapping []) = .mapping metadata)
  (hfile : loadFile files path = .ok [entries])
include hentries hmetadata hfile

theorem print_rejected (format : Format) (h : e.Rejects (.mapping entries)) :
    ∃ s, print e files [path] format = .error (.shape s) := by
  obtain ⟨name, hname, -⟩ := manifestName_ok hentries hmetadata
  obtain ⟨s, hmanifest⟩ := manifest_rejected hname h
  exact ⟨s, bind_error.mpr (.inl (by rw [reports_lone hfile, hmanifest]; rfl))⟩

/-- The one report of a file tells what is found in its manifest; there is none on
a kind without pods. -/
theorem reports_judged (h : e.evaluate (.mapping entries) = .ok violations) :
    reports e files [path] = .ok [] ∧ violations = [] ∨
      ∃ report, reports e files [path] = .ok [report] ∧ Tells e (path, entries) report ∧
        (∃ pod, readPod (.mapping entries) = .ok (some pod)) ∧ report.violations = violations := by
  obtain ⟨name, hname, hjson⟩ := manifestName_ok hentries hmetadata
  rw [reports_lone hfile]
  cases hread : readPod (.mapping entries) with
  | error s =>
    rw [evaluate_error hread] at h
    cases h
  | ok found =>
    cases found with
    | none =>
      left
      rw [manifest_podless hname hjson (readPod_none.mp hread)]
      rw [evaluate_none hread] at h
      exact ⟨rfl, (Except.ok.inj h).symm⟩
    | some pod =>
      right
      obtain ⟨view, -, hview, -, -⟩ := readPod_some.mp hread
      rw [manifest_judged hname hview h]
      exact ⟨_, rfl, ⟨rfl, rfl, hname, h⟩, ⟨pod, rfl⟩, rfl⟩

end

end Check

end PodPolicy
