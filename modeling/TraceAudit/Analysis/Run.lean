import TraceAudit.Analysis.Record
import TraceAudit.Report.Basic
import TraceAudit.Trace.Reader

/-!
# Runs

A run reads a trace to its end, analyzes each record, and reports. There is no report on an input
that failed, nor on one of whose lines none holds a record.
-/

namespace TraceAudit

/-- Why there is no report. -/
inductive RunError where
  | notOpened (source reason : String)
  | notRead (reason : String)
  | noRecords (nonBlank unparsed : Nat)
  deriving DecidableEq, Repr

/-- The wording of an error. -/
def RunError.message : RunError → String
  | .notOpened source reason => "cannot open trace input " ++ source ++ ": " ++ reason
  | .notRead reason => "failed reading trace input: " ++ reason
  | .noRecords nonBlank unparsed =>
      "no valid records in " ++ toString nonBlank ++ " non-blank line(s), " ++
        toString unparsed ++ " failed to parse"

namespace Tally

/-- Takes an item into account: a record with its outcome, or a line that holds none. -/
def addItem (rules : RuleSet) (t : Tally) : Item → Tally
  | .ok record => t.addOutcome record.role (record.analyze rules)
  | .error _ => t.addUnparsed

/-- The tally of items. -/
def ofItems (rules : RuleSet) (items : List Item) : Tally :=
  items.foldl (addItem rules) empty

end Tally

/-- The report on what a reader gives, under a name for its input. -/
def Reader.report (reader : Reader) (name : String) (rules : RuleSet) (tool : Tool) :
    Except RunError Report :=
  let (items, last) := reader.items
  let summary := (Tally.ofItems rules items).summary
  match last.finish with
  | .error reason => .error (.notRead reason)
  | .ok digest =>
      if 0 < digest.nonBlankLines ∧ summary.coverage.records = 0 then
        .error (.noRecords digest.nonBlankLines summary.coverage.unparsed)
      else .ok (.ofSummary tool ⟨name, digest.sha256⟩ rules summary)

/-- The report on a source of bytes, under a name for it. -/
def audit (source : List Delivery) (name : String) (rules : RuleSet) (tool : Tool) :
    Except RunError Report :=
  (Reader.ofSource source).report name rules tool

end TraceAudit
