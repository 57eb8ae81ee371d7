import Mathlib.Data.List.Forall2
import TraceAudit.Proofs.Report.Samples
import TraceAudit.Proofs.Text.OneLine
import TraceAudit.Report.Text

/-!
# The lines of a report

A report as text has two lines of its own at its start and three at its end, and between them one
line, or a heading and a block of three or four lines for each finding. If what it says of the
program, the input and the findings is on one line each, cutting its text at line breaks gives these
lines and no others, so nothing that a finding shows can pass for a line of the report.
-/

namespace TraceAudit

open Text (IsOneLine isOneLine_append)

/-! ## Texts of findings -/

namespace Finding

/-- A finding whose texts are on one line each. -/
structure IsPlain (f : Finding) : Prop where
  category : IsOneLine f.category
  title : IsOneLine f.title
  sample : IsOneLine f.sample
  remediation : IsOneLine f.remediation
  subjects : ∀ name ∈ f.subjects, IsOneLine name

theorem isOneLine_name (s : Severity) : IsOneLine s.name ∧ IsOneLine s.incidentLevel := by
  cases s <;> decide

/-- The lines on a finding are lines. -/
theorem IsPlain.isOneLine_lines {f : Finding} (plain : f.IsPlain) :
    ∀ line ∈ f.lines, IsOneLine line := by
  obtain ⟨name, incident⟩ := isOneLine_name f.severity
  have names : IsOneLine (", ".intercalate f.subjects.toList) :=
    Text.isOneLine_intercalate (by decide) plain.subjects
  intro line listed
  simp only [lines, List.mem_append, List.mem_cons, List.not_mem_nil, or_false] at listed
  rcases listed with ((rfl | rfl) | inner) | rfl
  · simp only [isOneLine_append, name, incident, plain.category, plain.title,
      Text.isOneLine_natural, and_true]
    decide
  · exact isOneLine_append.2 ⟨by decide, plain.sample⟩
  · split at inner
    · cases inner
    · rw [List.mem_singleton.1 inner]
      exact isOneLine_append.2 ⟨by decide, names⟩
  · exact isOneLine_append.2 ⟨by decide, plain.remediation⟩

end Finding

/-! ## Lines by their start -/

/-- Each of some lines begins with one of the marks. -/
def Marked (marks lines : List String) : Prop :=
  ∀ line ∈ lines, ∃ mark ∈ marks, mark.toList <+: line.toList

theorem Marked.nil (marks : List String) : Marked marks [] :=
  fun _ impossible => absurd impossible List.not_mem_nil

theorem Marked.cons {marks lines : List String} {mark line : String}
    (begins : mark.toList <+: line.toList) (known : mark ∈ marks) (rest : Marked marks lines) :
    Marked marks (line :: lines) :=
  List.forall_mem_cons.2 ⟨⟨mark, known, begins⟩, rest⟩

namespace Finding

/-! ## The parts of a report -/

/-- The marks of the lines on a finding, that of the subjects apart. -/
def marks : List String := ["  [", "      example: ", "      fix: "]

end Finding

namespace Report

/-- A report whose texts are on one line each. -/
structure IsPlain (r : Report) : Prop where
  version : IsOneLine r.tool.version
  source : IsOneLine r.input.source
  digest : IsOneLine r.input.sha256
  findings : ∀ f ∈ r.findings, f.IsPlain

theorem isOneLine_scopeLine (c : Coverage) : IsOneLine c.scopeLine := by
  unfold Coverage.scopeLine
  simp only [isOneLine_append, Text.isOneLine_natural, and_true]
  decide +kernel

theorem isOneLine_gapLine (c : GapCounts) : IsOneLine c.line := by
  unfold GapCounts.line
  simp only [isOneLine_append, Text.isOneLine_natural, and_true]
  decide +kernel

theorem isOneLine_verdictLine (c : Classification) : IsOneLine c.line := by
  have name : IsOneLine c.level.name := by cases c.level <;> decide
  unfold Classification.line
  simp only [isOneLine_append, name, Text.isOneLine_integer, and_true]
  decide +kernel

/-- The lines of a plain report are on one line each. -/
theorem IsPlain.isOneLine_lines {r : Report} (plain : r.IsPlain) :
    ∀ line ∈ r.lines, IsOneLine line := by
  have version : IsOneLine ("tracegate " ++ r.tool.version) :=
    isOneLine_append.2 ⟨by decide, plain.version⟩
  have input : IsOneLine ("Input: " ++ r.input.source ++ " (sha256 " ++ r.input.sha256 ++ ")") := by
    simp only [isOneLine_append, plain.source, plain.digest, and_true]
    decide
  intro line listed
  simp only [lines, List.mem_append, List.mem_cons, List.not_mem_nil, or_false] at listed
  rcases listed with ((rfl | rfl) | body) | rfl | rfl | rfl
  · exact version
  · exact input
  · cases found : r.findings with
    | nil =>
        rw [found] at body
        rw [List.mem_singleton.1 body]
        decide
    | cons f rest =>
        rw [found] at body
        rcases List.mem_cons.1 body with rfl | inner
        · decide
        · obtain ⟨g, there, within⟩ := List.mem_flatMap.1 inner
          exact (plain.findings g (found ▸ there)).isOneLine_lines line within
  · exact isOneLine_scopeLine r.coverage
  · exact isOneLine_gapLine r.coverage.gaps
  · exact isOneLine_verdictLine r.classification

/-- The text of a plain report is cut at line breaks into the lines of the report, and nothing comes
after the last of them. -/
theorem IsPlain.pieces_text {r : Report} (plain : r.IsPlain) :
    Text.pieces Text.isLineBreak r.text.toList = r.lines.map String.toList ++ [[]] :=
  Text.pieces_join plain.isOneLine_lines

end Report
end TraceAudit
