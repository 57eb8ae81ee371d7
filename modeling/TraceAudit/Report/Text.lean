import TraceAudit.Report.Basic

/-!
# Reports as text

A report as lines for people: two that name the program and the input, the findings, and three that
close with the coverage and the verdict.
-/

namespace TraceAudit

/-- The lines on a finding. -/
def Finding.lines (f : Finding) : List String :=
  ["  [" ++ f.severity.incidentLevel ++ "] " ++ f.severity.name ++ " " ++ f.category ++ " x" ++
      toString f.count ++ ": " ++ f.title,
    "      example: " ++ f.sample] ++
  (if f.subjects.isEmpty then []
    else ["      subjects: " ++ ", ".intercalate f.subjects.toList]) ++
  ["      fix: " ++ f.remediation]

/-- The lines on all findings. -/
def Finding.allLines : List Finding → List String
  | [] => ["No issues detected"]
  | f :: rest => "Findings:" :: (f :: rest).flatMap Finding.lines

/-- The line on what was read. -/
def Coverage.scopeLine (c : Coverage) : String :=
  "Scope: " ++ toString c.records ++ " records scanned (http " ++ toString c.roles.http ++
    ", sql " ++ toString c.roles.sql ++ ", redis " ++ toString c.roles.redis ++
    ", mongo " ++ toString c.roles.mongo ++ ", s3 " ++ toString c.roles.s3 ++
    ", other " ++ toString c.roles.other ++ "); " ++ toString c.analyzed ++ " analyzed, " ++
    toString c.notApplicable ++ " not applicable; " ++ toString c.unparsed ++
    " unparsed lines skipped"

/-- The line on what no rule could be checked on. -/
def GapCounts.line (c : GapCounts) : String :=
  "Gap in coverage: " ++ toString c.total ++ " records outside analyzer scope (unknown role " ++
    toString c.unknownRole ++ ", uncovered host " ++ toString c.uncoveredHost ++
    ", unanalyzable SQL " ++ toString c.unanalyzableSql ++ ")"

/-- The line on the verdict. -/
def Classification.line (c : Classification) : String :=
  "Classification: " ++ c.level.name ++ " (exit " ++ toString c.exitCode ++ ")"

namespace Report

/-- The lines of a report. -/
def lines (r : Report) : List String :=
  ["tracegate " ++ r.tool.version,
    "Input: " ++ r.input.source ++ " (sha256 " ++ r.input.sha256 ++ ")"] ++
  Finding.allLines r.findings ++
  [r.coverage.scopeLine, r.coverage.gaps.line, r.classification.line]

/-- A report as text, each line with a line feed after it. -/
def text (r : Report) : String :=
  String.join (r.lines.map (· ++ "\n"))

end Report
end TraceAudit
