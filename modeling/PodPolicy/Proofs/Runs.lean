import PodPolicy.Proofs.Disabling
import PodPolicy.Proofs.Parts
import PodPolicy.Proofs.Reading

/-!
# Runs of a check

`check_answers`: where each part of the files can be answered, a check ends with
the first failure and prints nothing else, or with one report on each manifest that
is subject to the policy. Its exit code depends on the set of files and of disabled
rules alone, and to disable more rules neither makes nor mends a failure and breaks
no compliance. `check_longName` shows a part that cannot be answered.
-/

namespace PodPolicy.Check

open Command

variable {e e' : Engine} {files : Files} {paths paths' ids ids' : List String}
  {settings settings' : Settings} {format format' : Format} {part : Part} {all all' : List Part}
  {message output errors : String} {exitCode exitCode' : Nat} {entries : Entries} {path : String}

-- -----------------------------------------------------------------------------
-- Answers
-- -----------------------------------------------------------------------------

/-- A check has an answer to a file that is refused with a message, and to a manifest
with metadata that is void or a mapping, a name that is no octets and no number that
would have to be told but is too long. -/
def Part.Answerable (e : Engine) : Part → Prop
  | .unread _ obstacle => ∃ message, obstacle.message? = some message
  | .manifest _ entries => HoldsName (entries.get "metadata") ∧
      (∀ octets, manifestName entries ≠ .ok (.bytes octets)) ∧ ¬Untold e entries

def IsFirstFailure (e : Engine) (all : List Part) (message : String) : Prop :=
  ∃ before part after, all = before ++ part :: after ∧
    (∀ p ∈ before, ∀ message, ¬p.Fails e message) ∧ part.Fails e message

/-- How a check has to end that comes upon some parts. `errors` is what stands on standard
error beside the log. -/
structure Answer (e : Engine) (all : List Part) (format : Format)
    (exitCode : Nat) (output errors : String) : Prop where
  failed_iff : exitCode = errorCode ↔ ∃ part ∈ all, ∃ message, part.Fails e message
  failure : exitCode = errorCode → output = "" ∧
    ∃ message, IsFirstFailure e all message ∧ errors = "error: " ++ message ++ "\n"
  violating_iff : exitCode = violationsCode ↔
    (∀ part ∈ all, ∀ message, ¬part.Fails e message) ∧ ∃ part ∈ all, part.Violates e
  compliant_iff : exitCode = compliantCode ↔
    ∀ part ∈ all, (∀ message, ¬part.Fails e message) ∧ ¬part.Violates e
  reports : exitCode ≠ errorCode → errors = "" ∧
    ∃ reports, List.Forall₂ (Tells e) (all.filterMap Part.subject?) reports ∧
      render format reports = .ok output ∧ Prints reports output format

/-- A check that comes upon some parts ends without an answer: at a part of which none
can be given, or where octets are the name of a manifest and JSON is asked for. -/
inductive Unanswered (e : Engine) (all : List Part) (format : Format) : Fault → Prop
  | part {before : List Part} {part : Part} {after : List Part} {f : Fault}
      (hsplit : all = before ++ part :: after) (hbefore : ∀ p ∈ before, p.Clear e)
      (h : part.Faults e f) : Unanswered e all format f
  | name {part : Part} (hall : ∀ p ∈ all, p.Clear e) (hformat : format = .json)
      (hpart : part ∈ all) (h : part.HasOctets) : Unanswered e all format .unwritable

theorem Part.Answerable.no_fault (h : part.Answerable e) : ∀ f, ¬part.Faults e f := by
  intro f hf
  cases part with
  | unread path obstacle =>
    obtain ⟨message, hmessage⟩ := h
    cases hf
    cases hmessage
  | manifest path entries =>
    obtain ⟨hmetadata, -, htold⟩ := h
    obtain ⟨hnot, -⟩ | ⟨-, huntold, -⟩ := hf
    · exact hnot hmetadata
    · exact htold huntold

theorem Part.Answerable.no_octets (h : part.Answerable e) : ¬part.HasOctets := by
  intro hoctets
  cases part with
  | unread path obstacle => exact hoctets
  | manifest path entries =>
    obtain ⟨-, octets, hname⟩ := hoctets
    exact h.2.1 octets hname

theorem not_unanswered (hall : ∀ part ∈ all, part.Answerable e) :
    ∀ f, ¬Unanswered e all format f := by
  rintro f (⟨rfl, -, h⟩ | ⟨-, -, hpart, h⟩)
  · exact (hall _ (by simp)).no_fault f h
  · exact (hall _ hpart).no_octets h

theorem Part.subject?_some {subject : String × Entries} : part.subject? = some subject ↔
    part = .manifest subject.1 subject.2 ∧ isPodless subject.2 = false := by
  cases part with
  | unread path obstacle => simp [subject?]
  | manifest path entries => cases hpodless : isPodless entries <;> grind [subject?]

theorem exists_readPod {violations : List Violation} (hpodless : isPodless entries = false)
    (h : e.evaluate (.mapping entries) = .ok violations) :
    ∃ pod, readPod (.mapping entries) = .ok (some pod) := by
  cases hread : readPod (.mapping entries) with
  | error s =>
    rw [PodPolicy.evaluate_error hread] at h
    cases h
  | ok found =>
    cases found with
    | none =>
      rw [isPodless_iff.mpr (readPod_none.mp hread)] at hpodless
      cases hpodless
    | some pod => exact ⟨pod, rfl⟩

section
variable {reports : List Report} {report : Report}
  (htells : List.Forall₂ (Tells e) (all.filterMap Part.subject?) reports)
include htells

theorem exists_report (hpart : .manifest path entries ∈ all)
    (hpodless : isPodless entries = false) : ∃ report ∈ reports, Tells e (path, entries) report :=
  forall₂_exists_right htells _
    (List.mem_filterMap.mpr ⟨_, hpart, Part.subject?_some.mpr ⟨rfl, hpodless⟩⟩)

theorem exists_subject (hreport : report ∈ reports) :
    ∃ path entries, .manifest path entries ∈ all ∧ isPodless entries = false ∧
      Tells e (path, entries) report := by
  obtain ⟨⟨path, entries⟩, hsubject, htell⟩ := forall₂_exists_left htells report hreport
  obtain ⟨part, hpart, h⟩ := List.mem_filterMap.mp hsubject
  obtain ⟨rfl, hpodless⟩ := Part.subject?_some.mp h
  exact ⟨path, entries, hpart, hpodless, htell⟩

theorem violates_iff :
    (∃ part ∈ all, part.Violates e) ↔ reports.all Report.complies = false := by
  simp only [List.all_eq_false, Report.complies, List.isEmpty_iff]
  constructor
  · rintro ⟨part, hpart, hviolates⟩
    cases part with
    | unread path obstacle => exact hviolates.elim
    | manifest path entries =>
      obtain ⟨violations, hne, hevaluate⟩ := hviolates
      have hpodless : isPodless entries = false := by
        rw [← Bool.not_eq_true]
        intro h
        rw [evaluate_none (readPod_podless h)] at hevaluate
        exact hne (Except.ok.inj hevaluate).symm
      obtain ⟨report, hreport, htell⟩ := exists_report htells hpart hpodless
      rw [htell.violations] at hevaluate
      exact ⟨report, hreport, by rw [Except.ok.inj hevaluate]; exact hne⟩
  · rintro ⟨report, hreport, hne⟩
    obtain ⟨path, entries, hpart, -, htell⟩ := exists_subject htells hreport
    exact ⟨_, hpart, _, hne, htell.violations⟩

theorem render_fault {f : Fault} : render format reports = .error (.fault f) ↔
    format = .json ∧ f = .unwritable ∧ ∃ part ∈ all, part.HasOctets := by
  constructor
  · intro h
    obtain ⟨hformat, heq⟩ := render_error h
    cases heq
    refine ⟨hformat, rfl, ?_⟩
    by_contra hoctets
    obtain ⟨output, houtput, -⟩ := @render_prints format reports fun _ report hreport => by
      obtain ⟨path, entries, hpart, hpodless, htell⟩ := exists_subject htells hreport
      exact htell.isTextual (exists_readPod hpodless htell.violations) fun octets h =>
        hoctets ⟨_, hpart, hpodless, octets, by rw [htell.name, h]⟩
    cases h.symm.trans houtput
  · rintro ⟨rfl, rfl, part, hpart, h⟩
    cases part with
    | unread path obstacle => exact h.elim
    | manifest path entries =>
      obtain ⟨hpodless, octets, hname⟩ := h
      obtain ⟨report, hreport, htell⟩ := exists_report htells hpart hpodless
      exact render_octets hreport (Except.ok.inj (htell.name.symm.trans hname))

theorem prints_of_render (h : render format reports = .ok output) :
    Prints reports output format := by
  obtain ⟨_, houtput, hprints⟩ := @render_prints format reports fun hformat report hreport => by
    obtain ⟨path, entries, -, hpodless, htell⟩ := exists_subject htells hreport
    refine htell.isTextual (exists_readPod hpodless htell.violations) fun octets hname => ?_
    rw [hformat, render_octets hreport hname] at h
    cases h
  cases h.symm.trans houtput
  exact hprints

end

theorem Answer.of_failure (h : IsFirstFailure e all message) :
    Answer e all format errorCode "" ("error: " ++ message ++ "\n") := by
  obtain ⟨before, part, after, rfl, hbefore, hfails⟩ := h
  have hpart : part ∈ before ++ part :: after := by simp
  exact {
    failed_iff := iff_of_true rfl ⟨part, hpart, message, hfails⟩
    failure := fun _ => ⟨rfl, message, ⟨before, part, after, rfl, hbefore, hfails⟩, rfl⟩
    violating_iff := iff_of_false (by decide) fun h => h.1 part hpart message hfails
    compliant_iff := iff_of_false (by decide) fun h => (h part hpart).1 message hfails
    reports := fun h => absurd rfl h }

theorem Answer.of_reports {reports : List Report}
    (hnone : ∀ part ∈ all, ∀ message, ¬part.Fails e message)
    (htells : List.Forall₂ (Tells e) (all.filterMap Part.subject?) reports)
    (houtput : render format reports = .ok output) :
    Answer e all format (if reports.all Report.complies then compliantCode else violationsCode)
      output "" := by
  have hfails : ¬∃ part ∈ all, ∃ message, part.Fails e message := by
    rintro ⟨part, hpart, message, h⟩
    exact hnone part hpart message h
  have hviolates := violates_iff htells
  cases hcomplies : reports.all Report.complies with
  | true =>
    have hno : ∀ part ∈ all, ¬part.Violates e := by
      intro part hpart h
      cases hcomplies.symm.trans (hviolates.mp ⟨part, hpart, h⟩)
    exact {
      failed_iff := iff_of_false (by decide) hfails
      failure := fun h => absurd h (by decide)
      violating_iff := iff_of_false (by decide) fun ⟨_, part, hpart, h⟩ => hno part hpart h
      compliant_iff := iff_of_true rfl fun part hpart => ⟨hnone part hpart, hno part hpart⟩
      reports := fun _ => ⟨rfl, reports, htells, houtput, prints_of_render htells houtput⟩ }
  | false =>
    obtain ⟨part, hpart, h⟩ := hviolates.mpr hcomplies
    exact {
      failed_iff := iff_of_false (by decide) hfails
      failure := fun h => absurd h (by decide)
      violating_iff := iff_of_true rfl ⟨hnone, part, hpart, h⟩
      compliant_iff := iff_of_false (by decide) fun hall => (hall part hpart).2 h
      reports := fun _ => ⟨rfl, reports, htells, houtput, prints_of_render htells houtput⟩ }

-- -----------------------------------------------------------------------------
-- Ends of a run
-- -----------------------------------------------------------------------------

theorem reports_error {obstacle : Obstacle} : Check.reports e files paths = .error obstacle ↔
    ∃ before part after, parts files paths = before ++ part :: after ∧
      (∀ p ∈ before, ∃ found, p.outcome e = .ok found) ∧ part.outcome e = .error obstacle := by
  rw [reports_parts, map_error, mapM_error]

theorem reports_ok {reports : List Report} (h : Check.reports e files paths = .ok reports) :
    List.Forall₂ (Tells e) ((parts files paths).filterMap Part.subject?) reports := by
  rw [reports_parts] at h
  obtain ⟨found, hfound, rfl⟩ := map_ok.mp h
  exact Part.reports_tell hfound

theorem exists_reports : (∃ reports, Check.reports e files paths = .ok reports) ↔
    ∀ part ∈ parts files paths, part.Clear e := by
  have hclear (part : Part) : part.Clear e ↔ ∃ found, part.outcome e = .ok found :=
    Part.outcome_clear.symm
  simp only [hclear, ← exists_mapM_ok, reports_parts, map_ok]
  constructor
  · rintro ⟨_, found, hfound, -⟩
    exact ⟨found, hfound⟩
  · rintro ⟨found, hfound⟩
    exact ⟨_, found, hfound, rfl⟩

/-- A check has nothing to print, not even a message, exactly where it is unanswered. -/
theorem print_fault {f : Fault} : print e files paths format = .error (.fault f) ↔
    Unanswered e (parts files paths) format f := by
  constructor
  · intro h
    obtain hreports | ⟨reports, hreports, h⟩ := bind_error.mp h
    · obtain ⟨before, part, after, hsplit, hbefore, hpart⟩ := reports_error.mp hreports
      exact .part hsplit (fun p hp => Part.outcome_clear.mp (hbefore p hp))
        (Part.outcome_fault.mp hpart)
    · obtain hrender | ⟨_, -, ⟨⟩⟩ := bind_error.mp h
      obtain ⟨hformat, rfl, part, hpart, hoctets⟩ := (render_fault (reports_ok hreports)).mp hrender
      exact .name (exists_reports.mp ⟨reports, hreports⟩) hformat hpart hoctets
  · rintro (⟨hsplit, hbefore, h⟩ | ⟨hall, hformat, hpart, h⟩)
    · exact bind_error.mpr (.inl (reports_error.mpr ⟨_, _, _, hsplit,
        fun p hp => Part.outcome_clear.mpr (hbefore p hp), Part.outcome_fault.mpr h⟩))
    · obtain ⟨reports, hreports⟩ := exists_reports.mpr hall
      have hrender := (render_fault (reports_ok hreports)).mpr ⟨hformat, rfl, _, hpart, h⟩
      exact bind_error.mpr (.inr ⟨reports, hreports, bind_error.mpr (.inl hrender)⟩)

theorem checkOutcome_fault {printed : Except Obstacle (String × Bool)} {f : Fault} :
    checkOutcome printed = .fault f ↔ printed = .error (.fault f) := by
  unfold checkOutcome
  cases printed with
  | ok _ => simp
  | error obstacle => cases obstacle <;> simp [Obstacle.message?]

theorem checkOutcome_told {obstacle : Obstacle} (h : obstacle.message? = some message) :
    checkOutcome (.error obstacle) = .finished errorCode "" ("error: " ++ message ++ "\n") := by
  unfold checkOutcome
  cases obstacle <;> simp_all [Obstacle.message?]

theorem exists_answer (hanswered : ∀ f, ¬Unanswered e (parts files paths) format f) :
    ∃ exitCode output errors,
      checkOutcome (print e files paths format) = .finished exitCode output errors ∧
        Answer e (parts files paths) format exitCode output errors := by
  cases hreports : Check.reports e files paths with
  | error obstacle =>
    have hprint : print e files paths format = .error obstacle := bind_error.mpr (.inl hreports)
    obtain ⟨before, part, after, hsplit, hbefore, hpart⟩ := reports_error.mp hreports
    cases hmessage : obstacle.message? with
    | none =>
      obtain ⟨f, rfl⟩ := Part.message_none.mp hmessage
      exact absurd (print_fault.mp hprint) (hanswered f)
    | some message =>
      rw [hprint, checkOutcome_told hmessage]
      exact ⟨_, _, _, rfl, .of_failure ⟨before, part, after, hsplit,
        fun p hp => (Part.outcome_clear.mp (hbefore p hp)).2,
        (Part.outcome_told.mp ⟨obstacle, hpart, hmessage⟩).2⟩⟩
  | ok reports =>
    cases hrender : render format reports with
    | error obstacle =>
      have hprint : print e files paths format = .error obstacle :=
        bind_error.mpr (.inr ⟨reports, hreports, bind_error.mpr (.inl hrender)⟩)
      rw [(render_error hrender).2] at hprint
      exact absurd (print_fault.mp hprint) (hanswered .unwritable)
    | ok output =>
      have hprint : print e files paths format = .ok (output, reports.all Report.complies) :=
        bind_ok.mpr ⟨reports, hreports, bind_ok.mpr ⟨output, hrender, rfl⟩⟩
      rw [hprint]
      have hclear := exists_reports.mp ⟨reports, hreports⟩
      exact ⟨_, _, _, rfl, .of_reports (fun part hpart => (hclear part hpart).2)
        (reports_ok hreports) hrender⟩

-- -----------------------------------------------------------------------------
-- Two runs
-- -----------------------------------------------------------------------------

theorem mem_parts : part ∈ parts files paths ↔ ∃ path ∈ paths, part ∈ partsOf files path := by
  simp only [parts, List.mem_flatMap]

theorem activeRules_mono (h : settings.disabledRules ++ ids ⊆ settings'.disabledRules ++ ids') :
    (engineFor settings' ids').activeRules ⊆ (engineFor settings ids).activeRules := by
  rw [activeRules_engineFor, activeRules_engineFor]
  intro r hr
  simp only [List.mem_filter, decide_eq_true_eq] at hr ⊢
  exact ⟨hr.1, fun hid => hr.2 (h hid)⟩

namespace Part

theorem fails_iff : part.Fails e' message ↔ part.Fails e message := by
  cases part with
  | unread path obstacle => rfl
  | manifest path entries => simp only [Fails, evaluate_rejected]

variable (hrules : e'.activeRules ⊆ e.activeRules)
include hrules

theorem Answerable.mono (h : part.Answerable e) : part.Answerable e' := by
  cases part with
  | unread path obstacle => exact h
  | manifest path entries =>
    obtain ⟨hmetadata, hname, htold⟩ := h
    refine ⟨hmetadata, hname, fun huntold => htold (huntold.imp_right ?_)⟩
    rintro ⟨pod, hread, htell⟩
    refine ⟨pod, hread, ?_⟩
    simp only [Engine.canTell, List.all_eq_false] at htell ⊢
    obtain ⟨r, hr, h⟩ := htell
    exact ⟨r, hrules hr, h⟩

theorem Violates.mono (hanswer : part.Answerable e) (h : part.Violates e') :
    part.Violates e := by
  cases part with
  | unread path obstacle => exact h
  | manifest path entries =>
    obtain ⟨violations, hne, hviolations⟩ := h
    cases hread : readPod (.mapping entries) with
    | error s =>
      rw [PodPolicy.evaluate_error hread] at hviolations
      cases hviolations
    | ok found =>
      cases found with
      | none =>
        rw [evaluate_none hread] at hviolations
        exact absurd (Except.ok.inj hviolations).symm hne
      | some pod =>
        have htell : e.canTell pod = true := by
          rw [← Bool.not_eq_false]
          exact fun h => hanswer.2.2 (.inr ⟨pod, hread, h⟩)
        have hevaluate : e.evaluate (.mapping entries) = .ok (e.judge pod) := by
          rw [evaluate_some hread, Engine.verdict, if_pos htell]
          rfl
        refine ⟨e.judge pod, fun hnil => hne ?_, hevaluate⟩
        rw [hnil, evaluate_nil] at hevaluate
        obtain hnone | ⟨pod', hpod, hpasses⟩ := hevaluate
        · cases hnone.symm.trans hread
        · have hfewer : e'.evaluate (.mapping entries) = .ok [] :=
            evaluate_nil.mpr (.inr ⟨pod', hpod, fun r hr => hpasses r (hrules hr)⟩)
          exact Except.ok.inj (hviolations.symm.trans hfewer)

end Part

section
variable {output' errors' : String} (h : Answer e all format exitCode output errors)
  (h' : Answer e' all' format' exitCode' output' errors')
  (hall : ∀ part, part ∈ all' ↔ part ∈ all)
include h h' hall

theorem Answer.errorCode_iff : exitCode' = errorCode ↔ exitCode = errorCode := by
  have hfails (part : Part) (message : String) :
      part.Fails e' message ↔ part.Fails e message := Part.fails_iff
  simp only [h.failed_iff, h'.failed_iff, hall, hfails]

theorem Answer.compliantCode_mono (hrules : e'.activeRules ⊆ e.activeRules)
    (hanswer : ∀ part ∈ all, part.Answerable e) (hcode : exitCode = compliantCode) :
    exitCode' = compliantCode := by
  rw [h'.compliant_iff]
  intro part hpart
  replace hpart := (hall part).mp hpart
  obtain ⟨hfails, hviolates⟩ := h.compliant_iff.mp hcode part hpart
  exact ⟨fun message hf => hfails message (Part.fails_iff.mp hf),
    fun hv => hviolates (hv.mono hrules (hanswer part hpart))⟩

end

theorem Answer.exitCode_cases (h : Answer e all format exitCode output errors) :
    exitCode = errorCode ∨ exitCode = violationsCode ∨ exitCode = compliantCode := by
  rw [h.failed_iff, h.violating_iff, h.compliant_iff]
  by_cases hfails : ∃ part ∈ all, ∃ message, part.Fails e message
  · exact .inl hfails
  · have hnone : ∀ part ∈ all, ∀ message, ¬part.Fails e message :=
      fun part hpart message hf => hfails ⟨part, hpart, message, hf⟩
    by_cases hviolates : ∃ part ∈ all, part.Violates e
    · exact .inr (.inl ⟨hnone, hviolates⟩)
    · exact .inr (.inr fun part hpart => ⟨hnone part hpart,
        fun hv => hviolates ⟨part, hpart, hv⟩⟩)

/-- Codes agree that are the code for errors and the code for compliance alike. -/
theorem Answer.exitCode_eq {output' errors' : String}
    (h : Answer e all format exitCode output errors)
    (h' : Answer e' all' format' exitCode' output' errors')
    (herror : exitCode' = errorCode ↔ exitCode = errorCode)
    (hcompliant : exitCode' = compliantCode ↔ exitCode = compliantCode) :
    exitCode' = exitCode := by
  rcases h.exitCode_cases with rfl | rfl | rfl
  · exact herror.mpr rfl
  · rcases h'.exitCode_cases with rfl | rfl | rfl
    · exact (herror.mp rfl).symm
    · rfl
    · exact (hcompliant.mp rfl).symm
  · exact hcompliant.mpr rfl

/-- A check whose parts can be answered ends with the first failure and no other
output, or with one report on each manifest that is subject to the policy. Another
check of the same files, in any order and format, under settings of which the
disabled rules include those of the first, fails where the first fails and complies
where the first complies, and under the same disabled rules it has the same exit
code. -/
theorem check_answers
    (hparts : ∀ part ∈ parts files paths, part.Answerable (engineFor settings ids)) :
    ∃ exitCode output errors,
      Command.outcome settings files (.check paths format (ids.map some)) =
        .finished exitCode output errors ∧
      Answer (engineFor settings ids) (parts files paths) format exitCode output errors ∧
      ∀ settings' ids' paths' format', (∀ path, path ∈ paths' ↔ path ∈ paths) →
        settings.disabledRules ++ ids ⊆ settings'.disabledRules ++ ids' →
        ∃ exitCode' output' errors',
          Command.outcome settings' files (.check paths' format' (ids'.map some)) =
            .finished exitCode' output' errors' ∧
          (exitCode' = errorCode ↔ exitCode = errorCode) ∧
          (exitCode = compliantCode → exitCode' = compliantCode) ∧
          (settings'.disabledRules ++ ids' ⊆ settings.disabledRules ++ ids →
            exitCode' = exitCode) := by
  obtain ⟨exitCode, output, errors, hrun, hanswer⟩ := exists_answer (not_unanswered hparts)
  refine ⟨exitCode, output, errors, outcome_check.trans hrun, hanswer, ?_⟩
  intro settings' ids' paths' format' hpaths hdisabled
  have hall : ∀ part, part ∈ parts files paths' ↔ part ∈ parts files paths := by
    intro part
    simp only [mem_parts, hpaths]
  have hrules := activeRules_mono hdisabled
  have hparts' : ∀ part ∈ parts files paths', part.Answerable (engineFor settings' ids') :=
    fun part hpart => (hparts part ((hall part).mp hpart)).mono hrules
  obtain ⟨exitCode', output', errors', hrun', hanswer'⟩ := exists_answer (not_unanswered hparts')
  have herror := hanswer.errorCode_iff hanswer' hall
  have hcompliant := hanswer.compliantCode_mono hanswer' hall hrules hparts
  refine ⟨exitCode', output', errors', outcome_check.trans hrun', herror, hcompliant, ?_⟩
  intro hsame
  have hback := hanswer'.compliantCode_mono hanswer (fun part => (hall part).symm)
    (activeRules_mono hsame) hparts'
  exact hanswer.exitCode_eq hanswer' herror ⟨hback, hcompliant⟩

def podFiles : Files := fun path =>
  if path = "pod.yaml" then .octets "kind: Pod\n".toUTF8.data.toList else .missing

def patient : Settings :=
  ⟨"INFO", ["host-pid"], "audit", "0.0.0.0", 8443, 4⟩

def barePod : Entries := [(.text "kind", .text "Pod")]

theorem podFiles_load : loadFile podFiles "pod.yaml" = .ok [barePod] :=
  toOption_some.mp (by decide +kernel)

def goneMessage : String :=
  "Could not read manifest file gone.yaml: [Errno 2] No such file or directory: 'gone.yaml'"

def failsWith (message : String) : Except Obstacle (List Entries) → Bool
  | .error obstacle => obstacle.message? = some message
  | .ok _ => false

theorem podFiles_gone : ∃ obstacle, loadFile podFiles "gone.yaml" = .error obstacle ∧
    obstacle.message? = some goneMessage := by
  have hgone : failsWith goneMessage (loadFile podFiles "gone.yaml") = true := by decide +kernel
  cases hload : loadFile podFiles "gone.yaml" with
  | error obstacle =>
    rw [hload] at hgone
    exact ⟨obstacle, rfl, of_decide_eq_true hgone⟩
  | ok all =>
    rw [hload] at hgone
    cases hgone

theorem podFiles_lone : parts podFiles ["pod.yaml"] = [.manifest "pod.yaml" barePod] := by
  rw [parts, List.flatMap_singleton, partsOf, podFiles_load]
  rfl

theorem podFiles_both {obstacle : Obstacle}
    (hgone : loadFile podFiles "gone.yaml" = .error obstacle) :
    parts podFiles ["pod.yaml", "gone.yaml"] =
      [.manifest "pod.yaml" barePod, .unread "gone.yaml" obstacle] := by
  rw [parts, List.flatMap_cons, List.flatMap_singleton, partsOf, partsOf, podFiles_load, hgone]
  rfl

section
variable {violations : List Violation}
  (hfound : (engineFor patient ["app-label"]).evaluate (.mapping barePod) = .ok violations)
include hfound

theorem barePod_answerable :
    (Part.manifest "pod.yaml" barePod).Answerable (engineFor patient ["app-label"]) := by
  refine ⟨.inl rfl, nofun, fun huntold => ?_⟩
  cases hfound.symm.trans ((untold_subject rfl).mp huntold)

theorem barePod_not_fails :
    ¬(Part.manifest "pod.yaml" barePod).Fails (engineFor patient ["app-label"]) message := by
  rintro ⟨s, hs, -⟩
  cases hfound.symm.trans hs

theorem barePod_prints {reports : List Report}
    (htells : List.Forall₂ (Tells (engineFor patient ["app-label"]))
      [("pod.yaml", barePod)] reports) (hprints : Prints reports output .json) :
    Json.read output = .ok (.list [.record [
      ("file", .text "pod.yaml"), ("kind", .text "Pod"), ("name", .text "<unnamed>"),
      ("violations", .list (violations.map Violation.toValue))]]) := by
  obtain ⟨report, _, ⟨hfile, hkind, hname, hviolations⟩, ⟨⟩, rfl⟩ :=
    List.forall₂_cons_left_iff.mp htells
  obtain rfl := Except.ok.inj (hfound.symm.trans hviolations)
  rwa [Prints, List.map_singleton, hfile, hkind, ← Except.ok.inj hname] at hprints

end

/-- A pod is judged before a file is missed, and nothing is printed of it; alone it has
one entry in the output. -/
theorem check_podFiles :
    (∀ part ∈ parts podFiles ["pod.yaml", "gone.yaml"],
      part.Answerable (engineFor patient ["app-label"])) ∧
    Command.outcome patient podFiles
        (.check ["pod.yaml", "gone.yaml"] .json [some "app-label"]) =
      .finished 2 "" ("error: " ++ goneMessage ++ "\n") ∧
    ∃ output violations, violations ≠ [] ∧
      (engineFor patient ["app-label"]).evaluate (.mapping barePod) = .ok violations ∧
      Command.outcome patient podFiles (.check ["pod.yaml"] .json [some "app-label"]) =
        .finished 1 output "" ∧
      Json.read output = .ok (.list [.record [
        ("file", .text "pod.yaml"), ("kind", .text "Pod"), ("name", .text "<unnamed>"),
        ("violations", .list (violations.map Violation.toValue))]]) := by
  obtain ⟨obstacle, hgone, hmessage⟩ := podFiles_gone
  obtain ⟨violations, hfound, hne⟩ : ∃ violations,
      (engineFor patient ["app-label"]).evaluate (.mapping barePod) = .ok violations ∧
        violations ≠ [] := ⟨_, rfl, nofun⟩
  have hparts : ∀ part ∈ parts podFiles ["pod.yaml", "gone.yaml"],
      part.Answerable (engineFor patient ["app-label"]) := by
    rw [podFiles_both hgone, List.forall_mem_cons, List.forall_mem_singleton]
    exact ⟨barePod_answerable hfound, _, hmessage⟩
  refine ⟨hparts, ?_, ?_⟩
  · obtain ⟨exitCode, output, errors, hrun, hanswer, -⟩ :=
      @check_answers podFiles _ ["app-label"] patient .json hparts
    rw [podFiles_both hgone] at hanswer
    have hcode : exitCode = errorCode :=
      hanswer.failed_iff.mpr ⟨_, List.mem_cons_of_mem _ List.mem_cons_self, _, hmessage⟩
    obtain ⟨rfl, message, ⟨before, part, after, hsplit, -, hfails⟩, rfl⟩ := hanswer.failure hcode
    have hsame : message = goneMessage := by
      have hpart : part ∈ before ++ part :: after := by simp
      rw [← hsplit, List.mem_cons, List.mem_singleton] at hpart
      rcases hpart with rfl | rfl
      · exact absurd hfails (barePod_not_fails hfound)
      · exact Option.some.inj (hfails.symm.trans hmessage)
    subst hcode hsame
    exact hrun
  · obtain ⟨exitCode, output, errors, hrun, hanswer, -⟩ :=
      @check_answers podFiles ["pod.yaml"] ["app-label"] patient .json (by
        rw [podFiles_lone, List.forall_mem_singleton]
        exact barePod_answerable hfound)
    rw [podFiles_lone] at hanswer
    have hcode : exitCode = violationsCode := by
      refine hanswer.violating_iff.mpr ⟨?_, _, List.mem_singleton_self _, violations, hne, hfound⟩
      rw [List.forall_mem_singleton]
      exact fun _ => barePod_not_fails hfound
    subst hcode
    obtain ⟨rfl, reports, htells, -, hprints⟩ := hanswer.reports (by decide)
    exact ⟨output, violations, hne, hfound, hrun, barePod_prints hfound htells hprints⟩

-- -----------------------------------------------------------------------------
-- A name that is too long
-- -----------------------------------------------------------------------------

section
open Yaml Numeral

deriving instance DecidableEq for Cursor, KeyPlace, Yaml.Layout

def longWord : List Char :=
  '0' :: 'x' :: '1' :: List.replicate 3600 '0'

def roleText : List Char :=
  "kind: Role\nmetadata:\n  name: !!int ".toList ++ longWord

def roleFiles : Files :=
  fun _ => .octets (String.ofList roleText).toUTF8.data.toList

def role (name : Value) : Entries :=
  [(.text "kind", .text "Role"), (.text "metadata", .mapping [(.text "name", name)])]

def tokensBefore : List Token :=
  [.tag ⟨some "!!", "int"⟩, .value, .scalar "name" true, .key, .blockMappingStart,
   .value, .scalar "metadata" true, .key,
   .scalar "Role" true, .value, .scalar "kind" true, .key, .blockMappingStart]

def roleTokens (s : String) : List Token :=
  tokensBefore.reverse ++ [.scalar s true, .blockEnd, .blockEnd, .streamEnd]

def beforeWord : Yaml.Layout :=
  .keyless ⟨' ' :: longWord, 3604, 34, 2, 13⟩ tokensBefore 13 2 [0, -1]

def afterWord (s : String) : Yaml.Layout :=
  .keyless ⟨[], 0, 3638, 2, 3617⟩ (.scalar s true :: tokensBefore) 14 2 [0, -1]

theorem layout_beforeWord : Layout.after 8 { cursor := ⟨roleText, 3638, 0, 0, 0⟩ } =
    .ok beforeWord :=
  toOption_some.mp (by decide +kernel)

theorem layout_afterWord : beforeWord.advance = .ok (afterWord (String.ofList longWord)) := by
  have hword : ∀ c ∈ longWord, isBreak c = false ∧ c ≠ byteOrderMark := by
    have hall : longWord.all (fun c => !isBreak c && c != byteOrderMark) = true := by
      decide +kernel
    simpa using hall
  have hplain : plainRun false longWord = longWord := by decide +kernel
  have hlength : ('x' :: '1' :: List.replicate 3600 '0').length = 3602 := by
    decide +kernel
  have hadvance := @Layout.advance_number _ 34 2 13 13 tokensBefore 2 [0, -1] hword hplain
    (by decide)
  rw [hlength] at hadvance
  exact hadvance

theorem layout_atEnd (s : String) : ∃ l, (afterWord s).advance = .ok l ∧ l.isDone = true ∧
    l.made.reverse = roleTokens s := by
  have hblank : (afterWord s).skipMark.skipBlank 1 = afterWord s := by
    unfold Layout.skipBlank
    rfl
  rw [Layout.advance]
  show ∃ l, ((afterWord s).skipMark.skipBlank 1).refresh >>= _ = .ok l ∧ _
  rw [hblank]
  exact ⟨_, rfl, rfl, rfl⟩

theorem tokens_role : tokens (String.ofList roleText) = roleTokens (String.ofList longWord) := by
  have hprintable : roleText.all isPrintable = true := by decide +kernel
  have hlength : roleText.length = 3638 := by decide +kernel
  have hstart : Cursor.start (String.ofList roleText) = ⟨roleText, 3638, 0, 0, 0⟩ := by
    rw [Cursor.start, String.toList_ofList, String.length_ofList, hlength]
  obtain ⟨l, hl, hdone, hmade⟩ := layout_atEnd (String.ofList longWord)
  have hlast : Layout.after 2 beforeWord = .ok l := by
    have hafter : Layout.after 1 (afterWord (String.ofList longWord)) = .ok l := by
      rw [Layout.after, hl]
      rfl
    rw [Layout.after, layout_afterWord]
    exact hafter
  rw [tokens, String.toList_ofList, hprintable, if_pos rfl, String.length_ofList, hlength, hstart,
    Layout.run_after layout_beforeWord, Layout.run_after hlast, Layout.run_done hdone, hmade]

def roleGraph (s : String) : Graph where
  nodes := #[⟨.mapping, .mapping [(1, 2), (3, 4)]⟩, ⟨.text, .text "kind"⟩,
    ⟨.text, .text "Role"⟩, ⟨.text, .text "metadata"⟩, ⟨.mapping, .mapping [(5, 6)]⟩,
    ⟨.text, .text "name"⟩, ⟨.int, .text s⟩]
  root := 0

theorem documents_role (s : String) :
    documentsFrom (Read.firstDocument (4 * (roleTokens s).length + 4))
      ((roleTokens s).length + 1) (roleTokens s) = ⟨[roleGraph s], none⟩ := by
  rfl

/-- The parts of all nodes, of which those of the metadata, of the key and of the
name in it come last, and no collection left to be filled. -/
def roleMaking (s : String) (metadata : Yaml.Part) (key name : Option Yaml.Part) : Making where
  nodes := (roleGraph s).nodes
  parts := #[some (.mapping [(.text "kind", 2), (.text "metadata", 4)]),
    some (.value (.text "kind")), some (.value (.text "Role")), some (.value (.text "metadata")),
    some metadata, key, name]

theorem fill_role {s : String} {n : Int} (h : readInt s = .ok n) :
    (Make.fill 4).run (roleMaking s .opened none none) =
      .ok ((), roleMaking s (.mapping [(.text "name", 6)]) (some (.value (.text "name")))
        (some (.value (.int n)))) := by
  have hkey : (Make.key 5).run (roleMaking s .opened none none) =
      .ok (.text "name", roleMaking s .opened (some (.value (.text "name"))) none) := rfl
  have hname : (Make.part 6).run (roleMaking s .opened (some (.value (.text "name"))) none) =
      .ok (.value (.int n), roleMaking s .opened (some (.value (.text "name")))
        (some (.value (.int n)))) :=
    Make.part_scalar rfl rfl (scalarOf_int rfl h)
  have hentry : (Make.entry (5, 6)).run (roleMaking s .opened none none) =
      .ok ((.text "name", 6), roleMaking s .opened (some (.value (.text "name")))
        (some (.value (.int n)))) := Make.entry_ok hkey hname
  exact Make.fill_mapping rfl (Make.entries_single rfl rfl hentry)

theorem parts_role {s : String} {n : Int} (h : readInt s = .ok n) : (roleGraph s).parts = .ok
    #[.mapping [(.text "kind", 2), (.text "metadata", 4)], .value (.text "kind"),
      .value (.text "Role"), .value (.text "metadata"), .mapping [(.text "name", 6)],
      .value (.text "name"), .value (.int n)] := by
  let start : Making := ⟨(roleGraph s).nodes, Array.replicate 7 none, []⟩
  let root : Making := ⟨(roleGraph s).nodes, #[some .opened, none, none, none, none, none, none],
    [0]⟩
  have hroot : (Make.part 0).run start = .ok (.opened, root) := rfl
  have hfirst : (Make.fill 0).run { root with opened := [] } =
      .ok ((), { roleMaking s .opened none none with opened := [4] }) := rfl
  have hmake : (Make.part 0 >>= fun _ => Make.rounds 8).run start =
      .ok ((), roleMaking s (.mapping [(.text "name", 6)]) (some (.value (.text "name")))
        (some (.value (.int n)))) := by
    rw [run_bind_ok hroot, Make.rounds_one rfl hfirst, Make.rounds_one rfl (fill_role h),
      Make.rounds_none rfl]
  show ((Make.part 0 >>= fun _ => Make.rounds 8).run start >>= _) = _
  rw [hmake]
  simp [roleMaking]

theorem value_role {s : String} {n : Int} (h : readInt s = .ok n) :
    (roleGraph s).value = .ok (.mapping (role (.int n))) := by
  have hsettled : Known.settle #[.mapping [(.text "kind", 2), (.text "metadata", 4)],
      .value (.text "kind"), .value (.text "Role"), .value (.text "metadata"),
      .mapping [(.text "name", 6)], .value (.text "name"), .value (.int n)] 8
      #[none, none, none, none, none, none, none] =
      #[some (.mapping (role (.int n))), some (.text "kind"), some (.text "Role"),
        some (.text "metadata"), some (.mapping [(.text "name", .int n)]), some (.text "name"),
        some (.int n)] := by
    simp [Known.settle, Known.settleBelow, Known.get, Part.value?, Known.count, role]
  rw [Graph.value, parts_role h]
  simp [bind, Except.bind, hsettled]
  rfl

theorem readInt_longWord : readInt (String.ofList longWord) = .ok (16 ^ 3600) := by
  refine readInt_sixteen (by decide +kernel) ?_
  rw [readInteger, String.toList_ofList]
  decide +kernel

theorem loadFile_role : loadFile roleFiles "role.yaml" = .ok [role (.int (16 ^ 3600))] := by
  have hlines : normalLines roleText = roleText := by decide +kernel
  have hread : readFile roleFiles "role.yaml" = .ok (String.ofList roleText) := by
    rw [readFile, if_neg (by decide)]
    exact decodeFile_toUTF8 hlines
  have hdocuments : documents (String.ofList roleText) =
      ⟨[roleGraph (String.ofList longWord)], none⟩ := by
    rw [documents, tokens_role]
    exact documents_role _
  exact loadFile_single hread hdocuments (value_role readInt_longWord)

theorem manifestName_role {n : Int} (hn : n ≠ 0) :
    manifestName (role (.int n)) = .ok (.int n) := by
  have hvoid : (Value.int n).isVoid = false := by simp [Value.isVoid, hn]
  show Except.ok ((Value.int n).orElse _) = _
  rw [Value.orElse, hvoid, if_neg Bool.false_ne_true]

/-- A manifest of a kind without pods is left out under its name. If that is a number
of more than 4300 digits the check has no exit code, although nothing fails and the
metadata is a mapping. -/
theorem check_longName :
    parts roleFiles ["role.yaml"] = [.manifest "role.yaml" (role (.int (16 ^ 3600)))] ∧
    HoldsName ((role (.int (16 ^ 3600))).get "metadata") ∧
    manifestName (role (.int (16 ^ 3600))) = .ok (.int (16 ^ 3600)) ∧
    (∀ e message, ¬(Part.manifest "role.yaml" (role (.int (16 ^ 3600)))).Fails e message) ∧
    ¬∃ exitCode output errors,
      Command.outcome patient roleFiles (.check ["role.yaml"] .text []) =
        .finished exitCode output errors := by
  have hpodless (n : Int) : isPodless (role (.int n)) = true := rfl
  have hname : manifestName (role (.int (16 ^ 3600))) = .ok (.int (16 ^ 3600)) :=
    manifestName_role (by decide +kernel)
  have hlong : isTellable (16 ^ 3600) = false := by decide +kernel
  have hparts : parts roleFiles ["role.yaml"] =
      [.manifest "role.yaml" (role (.int (16 ^ 3600)))] := by
    rw [parts, List.flatMap_singleton, partsOf, loadFile_role]
    rfl
  have hfault : Command.outcome patient roleFiles (.check ["role.yaml"] .text []) =
      .fault .untellableNumber := by
    have hmanifest : manifest (engineFor patient []) "role.yaml" (role (.int (16 ^ 3600))) =
        .error (.fault .untellableNumber) := by
      rw [manifest_skipped hname (hpodless _), Value.isTellable, hlong, if_neg Bool.false_ne_true]
    have hreports : Check.reports (engineFor patient []) roleFiles ["role.yaml"] =
        .error (.fault .untellableNumber) := by
      rw [reports_lone loadFile_role, hmanifest]
      rfl
    refine (@outcome_check patient roleFiles ["role.yaml"] [] .text).trans ?_
    rw [print, hreports]
    rfl
  refine ⟨hparts, .inr ⟨_, rfl⟩, hname, ?_, ?_⟩
  · rintro e message ⟨s, hs, -⟩
    rw [evaluate_none (readPod_podless (hpodless _))] at hs
    cases hs
  · rintro ⟨exitCode, output, errors, h⟩
    cases hfault.symm.trans h

end

end PodPolicy.Check
