/-!
# Rules

A rule is a category of finding with all that a report says about it beside its occurrences.
-/

namespace TraceAudit

/-- How bad a finding is, from least to worst. -/
inductive Severity where
  | info
  | warning
  | blocker
  deriving DecidableEq, Repr

namespace Severity

/-- The place of a severity among all, the worst one last. -/
def rank : Severity → Nat
  | info => 0
  | warning => 1
  | blocker => 2

/-- All severities, from least to worst. -/
def all : List Severity := [info, warning, blocker]

/-- The name of a severity in reports and rules files. -/
def name : Severity → String
  | info => "INFO"
  | warning => "WARNING"
  | blocker => "BLOCKER"

/-- The severity of a name. -/
def ofName? (s : String) : Option Severity :=
  all.find? (·.name == s)

/-- The incident level that the text of a report shows. -/
def incidentLevel : Severity → String
  | info => "SEV2"
  | warning => "SEV1"
  | blocker => "SEV0"

/-- The worse of two severities. -/
def max (a b : Severity) : Severity :=
  if a.rank ≤ b.rank then b else a

@[simp] theorem ofName?_name (s : Severity) : ofName? s.name = some s := by
  cases s <;> decide

end Severity

structure Rule where
  /-- The stable name of the category. -/
  id : String
  severity : Severity
  title : String
  remediation : String
  deriving DecidableEq, Repr

end TraceAudit
