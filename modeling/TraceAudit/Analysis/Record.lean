import TraceAudit.Analysis.Command
import TraceAudit.Analysis.Payment
import TraceAudit.Analysis.Query

/-!
# Analysis of records

Each record goes to the rules that its payload is about.
-/

namespace TraceAudit

/-- The outcome for a record. -/
def Record.analyze (record : Record) (rules : RuleSet) : Outcome :=
  match record.payload with
  | .http call => checkPayment call rules
  | .sql query => Sql.checkQuery query
  | .command c =>
      match record.role.store? with
      | some store => .analyzed (checkCommand store c rules)
      | none => .gap .unknownRole
  | .uncovered => .gap .unknownRole

end TraceAudit
