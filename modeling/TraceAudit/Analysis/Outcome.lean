import TraceAudit.Rules.Rule

/-!
# Outcomes

What the analysis of one record can tell.
-/

namespace TraceAudit

/-- One rule that one record breaks. -/
structure Detection where
  rule : Rule
  /-- What was sent: a query, a request line or a command. -/
  evidence : String
  /-- The provider or system concerned, if the rule is about one. -/
  subject : Option String
  deriving DecidableEq, Repr

/-- Why no rule could be checked. -/
inductive Gap where
  | unknownRole
  | uncoveredHost
  | unanalyzableSql
  deriving DecidableEq, Repr

namespace Gap

/-- The name of a gap in reports. -/
def name : Gap → String
  | unknownRole => "unknown_role"
  | uncoveredHost => "uncovered_host"
  | unanalyzableSql => "unanalyzable_sql"

/-- The wording for a gap. -/
def label : Gap → String
  | unknownRole => "unknown role"
  | uncoveredHost => "uncovered host"
  | unanalyzableSql => "unanalyzable SQL"

end Gap

inductive Outcome where
  /-- The rules were checked, and these are broken. -/
  | analyzed (detections : List Detection)
  /-- A rule is about records like this one, but not about this one. -/
  | notApplicable
  | gap (g : Gap)
  deriving DecidableEq, Repr

end TraceAudit
