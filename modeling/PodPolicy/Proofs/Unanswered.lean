import PodPolicy.Proofs.Runs
import PodPolicy.Proofs.ScalarFaults

/-!
# Checks without an answer

Where a check ends without an exit code. `check_unanswered`: that is at the first part
of its files that is no manifest, because its path, its octets or a scalar in it
cannot be made sense of, or whose metadata is neither void nor a mapping, or of which
a number would have to be told that is too long; or it is where octets are a name and
JSON is asked for. Any other check has its answer, and there what breaks a rule of
the language or has the wrong shape is told. `check_oddFiles` shows files that are
left without one.
-/

namespace PodPolicy

open Text

variable {files : Files} {paths ids : List String} {path : String} {settings : Settings}
  {format : Format} {f : Fault}

-- -----------------------------------------------------------------------------
-- Files
-- -----------------------------------------------------------------------------

theorem Manifest.load_fault {text : String} :
    Manifest.load text = .error (.fault f) ↔ Yaml.Unreadable text f := by
  rw [← Yaml.readAll_fault, Manifest.load]
  cases Yaml.readAll text with
  | error stop => cases stop <;> simp [ofDecoded, Obstacle.ofStop]
  | ok documents =>
    simp only [ofDecoded, reduceCtorEq, iff_false]
    intro h
    obtain ⟨_, -, ⟨⟩⟩ := mapError_error.mp h

/-- A file ends a check without an answer: no file can have its path, its octets are
no text, or its text ends at a fault. -/
inductive Unloadable (files : Files) (path : String) : Fault → Prop
  | path (h : '\x00' ∈ path.toList) : Unloadable files path .unusablePath
  | octets {content : List UInt8} (hpath : '\x00' ∉ path.toList)
      (hfile : files (Path.shorten path) = .octets content) (h : utf8? content = none) :
      Unloadable files path .undecodable
  | text {text : String} {f : Fault} (hread : readFile files path = .ok text)
      (h : Yaml.Unreadable text f) : Unloadable files path f

theorem readFile_fault : readFile files path = .error (.fault f) ↔
    '\x00' ∈ path.toList ∧ f = .unusablePath ∨
      '\x00' ∉ path.toList ∧ f = .undecodable ∧
        ∃ content, files (Path.shorten path) = .octets content ∧ utf8? content = none := by
  rw [readFile]
  by_cases hpath : '\x00' ∈ path.toList
  · simp [hpath, eq_comm]
  · simp only [List.contains_eq_mem, hpath, decide_false, Bool.false_eq_true, if_false,
      false_and, not_false_eq_true, true_and, false_or]
    cases hfile : files (Path.shorten path) with
    | octets content => cases hutf8 : utf8? content <;> simp [decodeFile, hutf8, eq_comm]
    | _ => simp

theorem loadFile_fault : loadFile files path = .error (.fault f) ↔ Unloadable files path f := by
  constructor
  · intro h
    obtain h | ⟨text, hread, h⟩ := bind_error.mp h
    · obtain ⟨hpath, rfl⟩ | ⟨hpath, rfl, content, hfile, hutf8⟩ := readFile_fault.mp h
      · exact .path hpath
      · exact .octets hpath hfile hutf8
    · exact .text hread (Manifest.load_fault.mp h)
  · rintro (hpath | ⟨hpath, hfile, hutf8⟩ | ⟨hread, h⟩)
    · exact bind_error.mpr (.inl (readFile_fault.mpr (.inl ⟨hpath, rfl⟩)))
    · exact bind_error.mpr (.inl (readFile_fault.mpr (.inr ⟨hpath, rfl, _, hfile, hutf8⟩)))
    · exact bind_error.mpr (.inr ⟨_, hread, Manifest.load_fault.mpr h⟩)

-- -----------------------------------------------------------------------------
-- Checks
-- -----------------------------------------------------------------------------

namespace Check

theorem mem_parts_unread {obstacle : Obstacle} : .unread path obstacle ∈ parts files paths ↔
    path ∈ paths ∧ loadFile files path = .error obstacle := by
  have hpart (given : String) : .unread path obstacle ∈ partsOf files given ↔
      path = given ∧ loadFile files given = .error obstacle := by
    unfold partsOf
    cases loadFile files given <;> simp [eq_comm]
  simp only [mem_parts, hpart]
  constructor
  · rintro ⟨_, hmem, rfl, h⟩
    exact ⟨hmem, h⟩
  · rintro ⟨hmem, h⟩
    exact ⟨path, hmem, rfl, h⟩

/-- A check ends without an exit code exactly where it is unanswered, and at the fault
that is met first; any other check has an answer. A file that gives no manifests is
such an end exactly where nothing can be told of why. -/
theorem check_unanswered :
    (∀ f, Command.outcome settings files (.check paths format (ids.map some)) = .fault f ↔
      Unanswered (Command.engineFor settings ids) (parts files paths) format f) ∧
    ((∃ exitCode output errors,
      Command.outcome settings files (.check paths format (ids.map some)) =
        .finished exitCode output errors ∧ exitCode ∈ [0, 1, 2] ∧
      Answer (Command.engineFor settings ids) (parts files paths) format exitCode output errors) ↔
        ∀ f, ¬Unanswered (Command.engineFor settings ids) (parts files paths) format f) ∧
    ∀ path f, .unread path (.fault f) ∈ parts files paths ↔
      path ∈ paths ∧ Unloadable files path f := by
  have hfault (f : Fault) :
      Command.outcome settings files (.check paths format (ids.map some)) = .fault f ↔
        Unanswered (Command.engineFor settings ids) (parts files paths) format f := by
    rw [outcome_check, checkOutcome_fault, print_fault]
  refine ⟨hfault, ⟨?_, ?_⟩, ?_⟩
  · rintro ⟨exitCode, output, errors, h, -⟩ f hf
    cases h.symm.trans ((hfault f).mpr hf)
  · intro h
    obtain ⟨exitCode, output, errors, hfinished, hanswer⟩ := exists_answer h
    refine ⟨exitCode, output, errors, outcome_check.trans hfinished, ?_, hanswer⟩
    obtain rfl | rfl | rfl := hanswer.exitCode_cases <;> decide
  · intro path f
    rw [mem_parts_unread, loadFile_fault]

def endsAt (f : Fault) : Outcome → Bool
  | .fault g => f = g
  | _ => false

theorem endsAt_iff {o : Outcome} : endsAt f o = true ↔ o = .fault f := by
  cases o <;> simp [endsAt, eq_comm]

def oneFile (content : List UInt8) : Files := fun path =>
  if path = "pod.yaml" then .octets content else .missing

theorem check_oddFiles :
    Command.outcome patient (oneFile [0xff]) (.check ["pod.yaml"] .text []) =
      .fault .undecodable ∧
    Command.outcome patient (oneFile "kind: Pod\nmetadata: [a]\n".toUTF8.data.toList)
      (.check ["pod.yaml"] .text []) = .fault .fieldOfOther ∧
    Command.outcome patient (oneFile "kind: Pod\nborn: 2024-13-45\n".toUTF8.data.toList)
      (.check ["pod.yaml"] .json []) = .fault .impossibleTime := by
  refine ⟨endsAt_iff.mp ?_, endsAt_iff.mp ?_, endsAt_iff.mp ?_⟩ <;> decide +kernel

end Check

end PodPolicy
