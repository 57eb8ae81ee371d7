import TraceAudit.Rules.Catalog
import TraceAudit.Text.AsciiCase
import TraceAudit.Text.Blank
import TraceAudit.Trace.Role

/-!
# Destructive commands

A command of a data store that an agent should not issue, with the category of finding it raises.
-/

namespace TraceAudit

structure CommandRule where
  store : Store
  /-- The name of the command. Its case does not matter. -/
  command : String
  category : String
  severity : Severity
  title : String
  remediation : String
  deriving DecidableEq, Repr

/-- What is wrong with a command rule. -/
inductive CommandFault where
  | notOneWord
  | undottedCategory
  | takenCategory
  deriving DecidableEq, Repr

/-- The wording of a fault. -/
def CommandFault.message : CommandFault → String
  | .notOneWord => "command must be a single non-empty token"
  | .undottedCategory => "category must be a dotted rule id"
  | .takenCategory => "category collides with a built-in rule"

namespace CommandRule

/-- What a report says of the category. -/
def rule (c : CommandRule) : Rule :=
  ⟨c.category, c.severity, c.title, c.remediation⟩

/-- Whether the rule is about a command of a store. -/
def isAbout (c : CommandRule) (store : Store) (command : String) : Bool :=
  c.store == store && Text.sameIgnoringCase c.command command

/-- The first thing that is wrong with a rule. -/
def fault? (c : CommandRule) : Option CommandFault :=
  if c.command.isEmpty || c.command.toList.any Text.isBlank then some .notOneWord
  else if !c.category.toList.contains '.' then some .undottedCategory
  else if builtinCategories.contains c.category then some .takenCategory
  else none

end CommandRule
end TraceAudit
