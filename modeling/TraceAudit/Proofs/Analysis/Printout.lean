import TraceAudit.Proofs.Analysis.Order
import TraceAudit.Proofs.Report.Layout

/-!
# What a trace can write into a report

A trace decides what queries, addresses and values a report shows, but not how the report is laid
out. Of the trace only samples reach a report, which are on one line; all other texts come from the
rules, the name of the input and the version of the program. If these are on one line each, a
report has the lines of a report and no others, whatever bytes were read.
-/

namespace TraceAudit

open Text (IsOneLine)

/-- Rules on one line each, in all that a report shows of them. -/
structure RuleSet.IsOneLine (rules : RuleSet) : Prop where
  vendors : ∀ v ∈ rules.vendors, Text.IsOneLine v.provider
  categories : ∀ entry ∈ rules.commands, Text.IsOneLine entry.category
  titles : ∀ entry ∈ rules.commands, Text.IsOneLine entry.title
  remediations : ∀ entry ∈ rules.commands, Text.IsOneLine entry.remediation

/-- A rule on one line each. -/
structure Rule.IsOneLine (rule : Rule) : Prop where
  id : Text.IsOneLine rule.id
  title : Text.IsOneLine rule.title
  remediation : Text.IsOneLine rule.remediation

theorem Store.isOneLine_name (store : Store) : IsOneLine store.name := by
  cases store <;> decide

end TraceAudit
