import TraceAudit.Report.Classification
import TraceAudit.Report.Summary
import TraceAudit.Rules.RuleSet

/-!
# Reports

A report binds the summary of a run to the input, the rules and the program that made it.
-/

namespace TraceAudit

/-- The program that made a report. -/
structure Tool where
  name : String
  version : String
  commit : Option String
  deriving DecidableEq, Repr

/-- The input that a report is about. -/
structure InputInfo where
  /-- What the input is called. -/
  source : String
  /-- The fingerprint of all its bytes. -/
  sha256 : String
  deriving DecidableEq, Repr

/-- The rules that a run was made under. -/
structure RulesInfo where
  catalogVersion : String
  providers : List String
  commands : Nat
  deriving DecidableEq, Repr

structure Report where
  schemaVersion : String
  tool : Tool
  input : InputInfo
  rules : RulesInfo
  findings : List Finding
  coverage : Coverage
  classification : Classification
  deriving DecidableEq, Repr

/-- What is said about a rule set: the names of its providers, each once, and how many commands
it has. -/
def RulesInfo.ofRules (rules : RuleSet) : RulesInfo where
  catalogVersion := "0.1.0"
  providers := (NameSet.ofList (rules.vendors.map (·.provider))).toList
  commands := rules.commands.length

/-- The report on a summary, whose findings it keeps in their order. -/
def Report.ofSummary (tool : Tool) (input : InputInfo) (rules : RuleSet) (s : Summary) :
    Report where
  schemaVersion := "0.1.0"
  tool
  input
  rules := .ofRules rules
  findings := s.findings
  coverage := s.coverage
  classification := .ofFindings s.findings

end TraceAudit
