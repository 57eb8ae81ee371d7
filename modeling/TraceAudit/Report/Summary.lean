import TraceAudit.Report.Coverage
import TraceAudit.Report.Finding

/-!
# Summaries

A tally takes the outcomes of a run one by one and keeps a finding for each category met, in the
order of the categories. Its summary lists the findings in the order of a report.
-/

namespace TraceAudit

/-- What a run found and how much it covered. -/
structure Summary where
  findings : List Finding
  coverage : Coverage
  deriving DecidableEq, Repr

/-- A summary in the making, its findings in the order of their categories. -/
structure Tally where
  findings : List Finding
  coverage : Coverage
  deriving DecidableEq, Repr

namespace Tally

/-- Puts a detection into the finding of its category, or a new one. -/
def addDetection (d : Detection) (isFirst : Bool) : List Finding → List Finding
  | [] => [(Finding.ofDetection d).addDetection d isFirst]
  | f :: rest =>
      if d.rule.id < f.category then (Finding.ofDetection d).addDetection d isFirst :: f :: rest
      else if d.rule.id = f.category then f.addDetection d isFirst :: rest
      else f :: addDetection d isFirst rest

/-- Puts in the detections of one record, of which some categories were seen already. Each category
counts once. -/
def addDetections (seen : List String) (findings : List Finding) :
    List Detection → List Finding
  | [] => findings
  | d :: rest =>
      addDetections (d.rule.id :: seen)
        (addDetection d (!seen.contains d.rule.id) findings) rest

/-- The tally of no lines. -/
def empty : Tally := ⟨[], .zero⟩

/-- Counts a line that holds no record. -/
def addUnparsed (t : Tally) : Tally :=
  { t with coverage := t.coverage.addUnparsed }

/-- Counts a record of a role with its outcome. -/
def addOutcome (t : Tally) (role : Role) (outcome : Outcome) : Tally where
  findings :=
    match outcome with
    | .analyzed detections => addDetections [] t.findings detections
    | .notApplicable => t.findings
    | .gap _ => t.findings
  coverage := (t.coverage.addRecord role).addOutcome outcome

/-- The summary of what was counted so far. -/
def summary (t : Tally) : Summary :=
  ⟨Finding.sorted t.findings, t.coverage⟩

end Tally
end TraceAudit
