import TraceAudit.Analysis.Outcome
import TraceAudit.Rules.RuleSet
import TraceAudit.Trace.Record

/-!
# Commands

A command raises a finding when the table of destructive commands names it. Reads and writes of
single keys are not looked at.
-/

namespace TraceAudit

/-- A text, given last character first, without the pairs of parentheses at its end. -/
def dropCalls : List Char → List Char
  | ')' :: '(' :: rest => dropCalls rest
  | cs => cs

/-- The name of an operation: what stands after the last dot or colon, without a call's
parentheses. -/
def operationChars (name : List Char) : List Char :=
  (dropCalls (name.reverse.takeWhile fun c => !(c == '.' || c == ':'))).reverse

/-- The operation that a command names, without qualifiers and arguments. -/
def Command.operation (c : Command) : String :=
  String.ofList (operationChars c.name.toList)

/-- What a finding shows of a command: the rule's name for it and the target, if one is given. -/
def commandEvidence (store : Store) (entry : CommandRule) (target : Option String) : String :=
  let subject := Text.trim (target.getD "")
  let call := store.name ++ " " ++ entry.command
  if subject.isEmpty then call else call ++ " " ++ subject

/-- The detections for a command to a store. -/
def checkCommand (store : Store) (c : Command) (rules : RuleSet) : List Detection :=
  match rules.command? store c.operation with
  | none => []
  | some entry => [⟨entry.rule, commandEvidence store entry c.target, some store.name⟩]

end TraceAudit
