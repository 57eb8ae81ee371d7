import TraceAudit.Proofs.Analysis.LineByLine
import TraceAudit.Proofs.Analysis.Verdict

/-!
# Traces in parts

A trace may be cut between two lines and its parts be counted apart: nothing of the first part leaks
into the second. The coverage is the sum of both, a category has the finding of the first part with
what the second counts, and whatever is appended to a trace whose run is blocked, the run stays
blocked.
-/

namespace TraceAudit

open Finding (find?)

namespace Tally

/-- Each finding of a summary is the one of its category. -/
theorem find?_category_summary {steps : List Step} {f : Finding}
    (there : f ∈ (ofSteps steps).summary.findings) :
    find? (ofSteps steps).summary.findings f.category = some f := by
  have ascending := (grouped_ofSteps steps).ascending
  have sorted := ascending.find?_sorted f.category
  exact sorted.trans (ascending.find?_category (Finding.mem_sorted.1 there))

end Tally

namespace Trace

/-- A summary of whole lines with more after them, in terms of the summaries of both parts. -/
theorem summary_append (rules : RuleSet) {first : Bytes} (whole : IsWhole first) (second : Bytes) :
    (summary rules (first ++ second)).coverage =
        (summary rules first).coverage + (summary rules second).coverage ∧
      ∀ id, find? (summary rules (first ++ second)).findings id =
        Option.merge Finding.join (find? (summary rules first).findings id)
          (find? (summary rules second).findings id) := by
  simp only [summary_eq_ofSteps, steps_append rules whole]
  exact Tally.summary_append (steps rules first) (steps rules second)

/-- Where something was found, a line was not blank. -/
theorem nonBlankLines_pos_of_mem {rules : RuleSet} {input : Bytes} {f : Finding}
    (there : f ∈ (summary rules input).findings) : 0 < nonBlankLines input := by
  rw [← length_steps rules]
  refine List.length_pos_iff.2 fun no_steps => ?_
  rw [summary_eq_ofSteps, no_steps] at there
  exact absurd (Finding.mem_sorted.1 there) List.not_mem_nil

/-- A finding that blocks is not lost when more lines follow. -/
theorem exists_blocker_append {rules : RuleSet} {first : Bytes} (whole : IsWhole first)
    (second : Bytes) {f : Finding} (there : f ∈ (summary rules first).findings)
    (blocks : f.severity = .blocker) :
    ∃ g ∈ (summary rules (first ++ second)).findings, g.severity = .blocker := by
  have before : find? (summary rules first).findings f.category = some f := by
    rw [summary_eq_ofSteps] at there ⊢
    exact Tally.find?_category_summary there
  have found := (summary_append rules whole second).2 f.category
  rw [before] at found
  cases later : find? (summary rules second).findings f.category with
  | none =>
      rw [later] at found
      exact ⟨f, List.mem_of_find?_eq_some found, blocks⟩
  | some g =>
      rw [later] at found
      exact ⟨f.join g, List.mem_of_find?_eq_some found, blocks⟩

end Trace

/-- The verdict of a run that fails is that it is blocked. -/
theorem Classification.level_ofFindings (findings : List Finding) :
    (ofFindings findings).level = .blocked ↔ (ofFindings findings).exitCode = 2 := by
  have code : (ofFindings findings).exitCode = (ofFindings findings).level.exitCode := rfl
  rw [code]
  cases (ofFindings findings).level <;> decide

/-- The summary of a trace that is cut between two lines: counters are added, a category is met if
it is met in either part, its counts are added and its subjects united, and all else that its finding
says comes from the first part that meets it. And when the run over the first part is blocked, there
is a report on both parts, and it is blocked. -/
theorem audit_append {first : Bytes} (whole : Trace.IsWhole first) (second : Bytes)
    (rules : RuleSet) :
    ((Trace.summary rules (first ++ second)).coverage =
        (Trace.summary rules first).coverage + (Trace.summary rules second).coverage ∧
      ∀ id, find? (Trace.summary rules (first ++ second)).findings id =
        Option.merge Finding.join (find? (Trace.summary rules first).findings id)
          (find? (Trace.summary rules second).findings id)) ∧
    ∀ (source another : List Delivery) (name : String) (tool : Tool) (report : Report),
      Delivers source first → Delivers another (first ++ second) →
      audit source name rules tool = .ok report → report.classification.exitCode = 2 →
      ∃ longer, audit another name rules tool = .ok longer ∧
        longer.classification.level = .blocked ∧ longer.classification.exitCode = 2 := by
  have added := Trace.summary_append rules whole second
  refine ⟨added, ?_⟩
  intro source another name tool report delivered also_delivered done blocked
  rw [report_of_audit delivered done] at blocked
  obtain ⟨f, there, blocks⟩ := (Classification.exitCode_ofFindings _).1 blocked
  -- The first part has a report although it has a line, so it has a record.
  have parsed : (Trace.summary rules first).coverage.records ≠ 0 := by
    intro none_parsed
    rw [audit_delivered delivered,
      if_pos ⟨Trace.nonBlankLines_pos_of_mem there, none_parsed⟩] at done
    cases done
  have also_parsed : (Trace.summary rules (first ++ second)).coverage.records ≠ 0 := by
    have counted : (Trace.summary rules (first ++ second)).coverage.records =
        (Trace.summary rules first).coverage.records +
          (Trace.summary rules second).coverage.records := by
      rw [added.1]
      rfl
    omega
  have failed : (Classification.ofFindings
      (Trace.summary rules (first ++ second)).findings).exitCode = 2 :=
    (Classification.exitCode_ofFindings _).2 (Trace.exists_blocker_append whole second there blocks)
  refine ⟨_, audit_of_parsed also_delivered name rules tool also_parsed, ?_, failed⟩
  exact (Classification.level_ofFindings _).2 failed

/-- A run in which the cache is wiped stays blocked when a line that is not UTF-8 follows. -/
theorem flushall_append :
    ∃ longer, audit [.bytes (Text.encodeUtf8 (redisLine "FLUSHALL") ++ [0xff])] "inline" .builtin
      ⟨"tracegate", "0.1.0", none⟩ = .ok longer ∧ longer.classification.level = .blocked := by
  have delivered := delivers_whole (Text.encodeUtf8 (redisLine "FLUSHALL"))
  have also_delivered := delivers_whole (Text.encodeUtf8 (redisLine "FLUSHALL") ++ [0xff])
  have found : (Trace.summary .builtin
      (Text.encodeUtf8 (redisLine "FLUSHALL"))).coverage.records ≠ 0 ∧
      (Classification.ofFindings (Trace.summary .builtin
        (Text.encodeUtf8 (redisLine "FLUSHALL"))).findings).exitCode = 2 := by decide +kernel
  have done := audit_of_parsed delivered "inline" .builtin ⟨"tracegate", "0.1.0", none⟩ found.1
  have whole : Trace.IsWhole (Text.encodeUtf8 (redisLine "FLUSHALL")) := .inr (by decide +kernel)
  obtain ⟨longer, also_done, level, _⟩ := (audit_append whole [0xff] .builtin).2 _ _ _ _ _
    delivered also_delivered done found.2
  exact ⟨longer, also_done, level⟩

end TraceAudit
