import TraceAudit.Analysis.Outcome
import TraceAudit.Text.Blank
import TraceAudit.Text.Cut
import TraceAudit.Text.NameSet

/-!
# Findings

A finding sums up the detections of one category in a run. What it says beside its count and its
subjects comes from the first of them.
-/

namespace TraceAudit

structure Finding where
  severity : Severity
  category : String
  title : String
  /-- How many records have a detection of the category. -/
  count : Nat
  /-- The evidence of the first detection, made short. -/
  sample : String
  remediation : String
  /-- The providers or systems concerned. -/
  subjects : NameSet
  deriving DecidableEq, Repr

namespace Finding

/-- The length of the longest evidence that is kept whole. -/
def sampleLimit : Nat := 200

/-- What stands for the rest of evidence that is cut. -/
def ellipsis : List Char := ['.', '.', '.']

/-- The words of an evidence with single blanks between them, cut to the limit. -/
def sampleChars (evidence : List Char) : List Char :=
  let joined := Text.joined ' ' (Text.wordChars evidence)
  if joined.length ≤ sampleLimit then joined
  else joined.take (sampleLimit - ellipsis.length) ++ ellipsis

/-- The words of an evidence with single blanks between them, cut to the limit. -/
def sampleOf (evidence : String) : String :=
  String.ofList (sampleChars evidence.toList)

/-- The finding of a detection's category, before any record is counted. -/
def ofDetection (d : Detection) : Finding where
  severity := d.rule.severity
  category := d.rule.id
  title := d.rule.title
  count := 0
  sample := sampleOf d.evidence
  remediation := d.rule.remediation
  subjects := .empty

/-- The finding with one more detection of its category, which counts if it is the first one of
its record. -/
def addDetection (f : Finding) (d : Detection) (isFirst : Bool) : Finding :=
  { f with
    count := if isFirst then f.count + 1 else f.count
    subjects :=
      match d.subject with
      | some name => f.subjects.insert name
      | none => f.subjects }

/-- Whether a finding may stand before another in a report: worse ones come first, and equally bad
ones by category. -/
def precedes (f g : Finding) : Bool :=
  if f.severity = g.severity then f.category ≤ g.category
  else g.severity.rank < f.severity.rank

/-- Findings in the order of a report. -/
def sorted (findings : List Finding) : List Finding :=
  findings.mergeSort precedes

end Finding
end TraceAudit
