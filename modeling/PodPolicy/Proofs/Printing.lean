import PodPolicy.Command.Run
import PodPolicy.Proofs.JsonText

/-!
# What is printed of reports

The output of a check, said apart from what writes it: in the text format a heading for
each report and a line for each of its violations, and in the JSON format a text that is
read as one entry for each report, with all of its violations. `render_prints`: reports
that are made of texts are always printed so.
-/

namespace PodPolicy

-- -----------------------------------------------------------------------------
-- Violations and reports as values
-- -----------------------------------------------------------------------------

theorem Severity.word_injective : Function.Injective Severity.word := by
  intro a b h
  cases a <;> cases b <;> first | rfl | exact absurd h (by decide)

theorem ViolationKind.word_injective : Function.Injective ViolationKind.word := by
  intro a b h
  cases a <;> cases b <;> first | rfl | exact absurd h (by decide)

theorem Violation.toValue_injective : Function.Injective Violation.toValue := by
  have hoptional {a b : Option String}
      (h : (a.map Value.text).getD .null = (b.map Value.text).getD .null) : a = b := by
    cases a <;> cases b <;> simp_all
  rintro ⟨⟩ ⟨⟩ h
  simp only [toValue, Value.record, List.map_cons, List.map_nil, Value.mapping.injEq,
    List.cons.injEq, Prod.mk.injEq, Value.text.injEq, true_and, and_true] at h
  obtain ⟨rfl, rfl, hkind, hseverity, rfl, hcontainer, hvolume⟩ := h
  cases ViolationKind.word_injective hkind
  cases Severity.word_injective hseverity
  cases hoptional hcontainer
  cases hoptional hvolume
  rfl

theorem Violation.toValue_isTextual (v : Violation) : v.toValue.IsTextual := by
  have hoptional (name : Option String) : ((name.map Value.text).getD .null).IsTextual := by
    cases name
    · exact .null
    · exact .text
  refine .record (by simp) ?_
  simp only [List.forall_mem_cons, List.not_mem_nil, false_implies, implies_true, and_true]
  exact ⟨.text, .text, .text, .text, .text, hoptional _, hoptional _⟩

theorem Report.toValue_isTextual {r : Report} (hkind : r.kind.IsTextual)
    (hname : r.name.IsTextual) : r.toValue.IsTextual := by
  refine .record (by simp) ?_
  simp only [List.forall_mem_cons, List.not_mem_nil, false_implies, implies_true, and_true]
  refine ⟨.text, hkind, hname, .list ?_⟩
  simp only [List.forall_mem_map]
  exact fun v _ => v.toValue_isTextual

namespace Check

-- -----------------------------------------------------------------------------
-- Outputs
-- -----------------------------------------------------------------------------

/-- The lines on a report: its heading, which tells how many violations there are, and
each violation in its order. -/
structure Lines (r : Report) (lines : List String) : Prop where
  heading : lines.head? = some (r.file ++ ": " ++ r.kind.display ++ "/" ++ r.name.display ++ ": " ++
    if r.violations = [] then "compliant" else toString r.violations.length ++ " violation(s)")
  violations : lines.tail = r.violations.map fun v =>
    "  [" ++ v.severity.word ++ "] " ++ v.ruleId ++ ": " ++ v.message

def Prints (rs : List Report) (output : String) : Format → Prop
  | .text => ∃ blocks : List (List String), List.Forall₂ Lines rs blocks ∧
      output = String.join (blocks.flatten.map (· ++ "\n"))
  | .json => Json.read output = .ok (.list (rs.map fun r => .record [
      ("file", .text r.file), ("kind", r.kind), ("name", r.name),
      ("violations", .list (r.violations.map Violation.toValue))]))

variable {format : Format} {rs : List Report} {r : Report} {obstacle : Obstacle}

theorem lines_report : Lines r r.lines := by
  have hcomplies : r.complies = true ↔ r.violations = [] := List.isEmpty_iff
  unfold Report.lines
  by_cases hnone : r.violations = []
  · rw [if_pos (hcomplies.mpr hnone)]
    refine ⟨?_, by rw [hnone]; rfl⟩
    rw [if_pos hnone, String.append_assoc]
    rfl
  · rw [if_neg (mt hcomplies.mp hnone)]
    refine ⟨?_, rfl⟩
    rw [if_neg hnone, String.append_assoc]
    exact congrArg some String.append_assoc.symm

theorem asText_prints : Prints rs (asText rs) .text := by
  refine ⟨rs.map Report.lines, ?_, by rw [asText, List.flatMap_def]⟩
  rw [List.forall₂_map_right_iff, List.forall₂_same]
  exact fun _ _ => lines_report

theorem render_prints (h : format = .json → ∀ r ∈ rs, r.toValue.IsTextual) :
    ∃ output, render format rs = .ok output ∧ Prints rs output format := by
  cases format with
  | text => exact ⟨_, rfl, asText_prints⟩
  | json =>
    have hall : (Value.list (rs.map Report.toValue)).IsTextual :=
      .list (by simpa only [List.forall_mem_map] using h rfl)
    obtain ⟨s, hs, hread⟩ := Json.write_read hall
    exact ⟨s ++ "\n", by rw [render, asJson, hs], hread⟩

theorem render_error (h : render format rs = .error obstacle) :
    format = .json ∧ obstacle = .fault .unwritable := by
  cases format with
  | text => cases h
  | json =>
    simp only [render, asJson] at h
    split at h <;> cases h
    exact ⟨rfl, rfl⟩

/-- Octets are no name that JSON can hold. -/
theorem render_octets {octets : List UInt8} (hr : r ∈ rs) (hname : r.name = .bytes octets) :
    render .json rs = .error (.fault .unwritable) := by
  cases hrender : render .json rs with
  | error obstacle => rw [(render_error hrender).2]
  | ok output =>
    obtain ⟨s, hs⟩ : ∃ s, Json.write .indented (.list (rs.map Report.toValue)) = .ok s := by
      simp only [render, asJson] at hrender
      split at hrender
      · exact ⟨_, ‹_›⟩
      · cases hrender
    rw [Json.write, Json.writeAt] at hs
    obtain ⟨parts, hparts, -⟩ := bind_ok.mp hs
    obtain ⟨written, hwritten⟩ := Json.exists_writeItems.mp ⟨parts, hparts⟩ _
      (List.mem_map_of_mem hr)
    rw [Report.toValue, Value.record, Json.writeAt] at hwritten
    obtain ⟨fields, hfields, -⟩ := bind_ok.mp hwritten
    obtain ⟨name, h⟩ := Json.exists_writeEntries.mp ⟨fields, hfields⟩ ("name", r.name) (by simp)
    rw [hname, Json.writeAt] at h
    cases h

end Check

end PodPolicy
