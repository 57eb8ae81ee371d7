import TraceAudit.Proofs.Analysis.LineByLine
import TraceAudit.Proofs.Trace.Spacing

/-!
# Spacing decides nothing

A run looks at the texts that the lines of its input say. Blank lines, blanks and byte order marks
around a text, the way in which lines end, and the numbers that lines have because of all this show
in nothing but the fingerprint of the input.
-/

namespace TraceAudit

open Tally (Step)

namespace Trace

/-- The step that a text makes. -/
def textStep (rules : RuleSet) : Option String → Step
  | none => .unparsed
  | some text => Item.step rules (Record.ofLine 1 text)

/-- A line makes the step of its text. -/
theorem step?_eq_map_textStep (rules : RuleSet) (bytes : Bytes) :
    step? rules bytes = (lineText? bytes).map (textStep rules) := by
  rw [step?, item?_ofBytes, lineItem?, lineText?]
  cases Text.decodeUtf8? bytes with
  | none => rfl
  | some s =>
      dsimp only
      split <;> rfl

theorem steps_eq_map_textStep (rules : RuleSet) (input : Bytes) :
    steps rules input = (texts input).map (textStep rules) := by
  rw [steps, texts, List.map_filterMap]
  exact congrArg (List.filterMap · (lines input)) (funext (step?_eq_map_textStep rules))

/-- As many lines are not blank as texts are said. -/
theorem length_texts (input : Bytes) : (texts input).length = nonBlankLines input := by
  rw [← length_steps .builtin, steps_eq_map_textStep, List.length_map]

end Trace

/-- What a report says besides the fingerprint of the input. -/
def Report.withoutDigest (r : Report) : Report :=
  { r with input := { r.input with sha256 := "" } }

/-- What is found on an input, besides its fingerprint, is decided by its texts. -/
theorem audit_withoutDigest {source : List Delivery} {input : Bytes}
    (delivered : Delivers source input) (name : String) (rules : RuleSet) (tool : Tool) :
    (audit source name rules tool).map Report.withoutDigest =
      let texts := Trace.texts input
      let summary := (Tally.ofSteps (texts.map (Trace.textStep rules))).summary
      if 0 < texts.length ∧ summary.coverage.records = 0 then
        .error (.noRecords texts.length summary.coverage.unparsed)
      else
        .ok (.ofSummary tool ⟨name, ""⟩ rules summary) := by
  rw [audit_delivered delivered, Trace.summary_eq_ofSteps, Trace.steps_eq_map_textStep,
    ← Trace.length_texts]
  dsimp only
  split <;> rfl

/-- On inputs that say the same texts in the same order, runs give the same error, or reports that
differ at most in the fingerprint. So the same texts may be written on lines in any way: with marks
and blanks around them, with blank lines between them, and without a line feed at the end. -/
theorem audit_eq_of_same_texts (name : String) (rules : RuleSet) (tool : Tool) :
    (∀ source other input second, Delivers source input → Delivers other second →
      Trace.texts input = Trace.texts second →
        (audit source name rules tool).map Report.withoutDigest =
          (audit other name rules tool).map Report.withoutDigest) ∧
      ∀ lines others : List Trace.Line,
        lines.filterMap Trace.Line.text? = others.filterMap Trace.Line.text? →
          ∀ ended second_ended source other,
            Delivers source (Trace.Line.written ended lines) →
            Delivers other (Trace.Line.written second_ended others) →
              (audit source name rules tool).map Report.withoutDigest =
                (audit other name rules tool).map Report.withoutDigest := by
  have of_texts {source other : List Delivery} {input second : Bytes}
      (delivered : Delivers source input) (also_delivered : Delivers other second)
      (same : Trace.texts input = Trace.texts second) :
      (audit source name rules tool).map Report.withoutDigest =
        (audit other name rules tool).map Report.withoutDigest := by
    rw [audit_withoutDigest delivered, audit_withoutDigest also_delivered, same]
  refine ⟨fun _ _ _ _ => of_texts, fun lines others same ended second_ended _ _ first second => ?_⟩
  refine of_texts first second ?_
  rw [Trace.Line.texts_written, Trace.Line.texts_written, same]

/-- A command to a store. -/
def spacedText : List Char :=
  "\x7b\"role\":\"redis\",\"meta\":\x7b\"redis\":\x7b\"command\":\"FLUSHALL\"\x7d\x7d\x7d".toList

/-- The command on a line that ends in a carriage return, with a byte order mark and a blank before
it, after a line of blanks. -/
def spacedLines : List Trace.Line := [
  ⟨0, [' ', '\t'], [], [], by decide, by decide, by decide, by decide⟩,
  ⟨1, ['\u3000'], spacedText, ['\r'], by decide, by decide, by decide +kernel, by decide +kernel⟩]

/-- The command on a line without spacing. -/
def plainLines : List Trace.Line := [
  ⟨0, [], spacedText, [], by decide, by decide, by decide +kernel, by decide +kernel⟩]

/-- With spacing and without it, and with a line that is not UTF-8 in place of another such line,
the command gives the same. -/
theorem spacedLines_same :
    Trace.Line.written false spacedLines ≠ Trace.Line.written true plainLines ∧
      (audit [.bytes (Trace.Line.written false spacedLines)] "t" .builtin
          ⟨"tracegate", "0.1.0", none⟩).map Report.withoutDigest =
        (audit [.bytes (Trace.Line.written true plainLines)] "t" .builtin
          ⟨"tracegate", "0.1.0", none⟩).map Report.withoutDigest ∧
      (audit [.bytes ([0xff, 0x0a] ++ Trace.Line.written false spacedLines)] "t" .builtin
          ⟨"tracegate", "0.1.0", none⟩).map Report.withoutDigest =
        (audit [.bytes ([0x20, 0xc3, 0x0a] ++ Trace.Line.written true plainLines)] "t" .builtin
          ⟨"tracegate", "0.1.0", none⟩).map Report.withoutDigest := by
  have texts : spacedLines.filterMap Trace.Line.text? = plainLines.filterMap Trace.Line.text? := by
    decide +kernel
  obtain ⟨of_texts, of_lines⟩ :=
    audit_eq_of_same_texts "t" .builtin ⟨"tracegate", "0.1.0", none⟩
  refine ⟨by decide +kernel, ?_, ?_⟩
  · exact of_lines spacedLines plainLines texts false true _ _ (delivers_whole _) (delivers_whole _)
  · exact of_texts _ _ _ _ (delivers_whole _) (delivers_whole _) (by decide +kernel)

end TraceAudit
