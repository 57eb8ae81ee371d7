import TraceAudit.Report.Data
import TraceAudit.Report.Text

/-!
# Artifacts

The files into which a report can be split, for readers who need only its findings, only its
coverage, or only its text.
-/

namespace TraceAudit

/-- A file of a report. -/
structure Artifact where
  name : String
  content : String
  deriving DecidableEq, Repr

namespace Report

/-- The part of a report that a gate looks at. -/
def findingsJson (r : Report) : Json :=
  .object [
    ("schema_version", .string r.schemaVersion),
    ("findings", .array (r.findings.map Finding.toJson)),
    ("classification", r.classification.toJson)]

/-- The part of a report that says what it is about. -/
def coverageJson (r : Report) : Json :=
  .object [
    ("schema_version", .string r.schemaVersion),
    ("input", r.input.toJson),
    ("rules", r.rules.toJson),
    ("coverage", r.coverage.toJson)]

/-- The files of a report, in the order in which they are written. -/
def artifacts (r : Report) : List Artifact := [
  ⟨"findings.json", r.findingsJson.pretty ++ "\n"⟩,
  ⟨"coverage.json", r.coverageJson.pretty ++ "\n"⟩,
  ⟨"report.txt", r.text⟩]

end Report
end TraceAudit
