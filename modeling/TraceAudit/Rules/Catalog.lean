import TraceAudit.Rules.Rule

/-!
# The rules that need no table

The rules for SQL statements and the one for payments. Rules for commands live in the table of
destructive commands, where each entry has a category of its own.
-/

namespace TraceAudit

/-- A fault of a statement. -/
inductive SqlFault where
  /-- It deletes every row, having no condition. -/
  | deleteAll
  /-- It deletes every row, its condition being always true. -/
  | deleteAlways
  | dropDatabase
  | dropTable
  | truncate
  /-- It updates every row, having no condition. -/
  | updateAll
  /-- It updates every row, its condition being always true. -/
  | updateAlways
  deriving DecidableEq, Repr

namespace SqlFault

/-- All faults, in the order of their names. -/
def all : List SqlFault :=
  [deleteAll, deleteAlways, dropDatabase, dropTable, truncate, updateAll, updateAlways]

/-- The name of the category. -/
def id : SqlFault → String
  | deleteAll => "sql.delete-no-where"
  | deleteAlways => "sql.delete-tautology"
  | dropDatabase => "sql.drop-database"
  | dropTable => "sql.drop-table"
  | truncate => "sql.truncate"
  | updateAll => "sql.update-no-where"
  | updateAlways => "sql.update-tautology"

def title : SqlFault → String
  | deleteAll => "SQL DELETE/UPDATE without WHERE"
  | deleteAlways => "SQL with tautology in WHERE"
  | dropDatabase => "Destructive SQL: DROP DATABASE"
  | dropTable => "Destructive SQL: DROP TABLE"
  | truncate => "Destructive SQL: TRUNCATE"
  | updateAll => "SQL DELETE/UPDATE without WHERE"
  | updateAlways => "SQL with tautology in WHERE"

def remediation : SqlFault → String
  | deleteAll => "Add a WHERE clause that restricts the rows being deleted."
  | deleteAlways => "Replace the always-true predicate with a condition on real columns."
  | dropDatabase => "Database removal must never be issued by an agent; revoke the privilege."
  | dropTable => "Run schema removals through a reviewed migration, not an agent action."
  | truncate => "Use a bounded DELETE, or prefix disposable tables with tmp_, scratch_ or temp_."
  | updateAll => "Add a WHERE clause that restricts the rows being updated."
  | updateAlways => "Replace the always-true predicate with a condition on real columns."

/-- The rule of a fault. Every fault of a statement blocks. -/
def rule (f : SqlFault) : Rule :=
  ⟨f.id, .blocker, f.title, f.remediation⟩

/-- The fault of a category's name. -/
def ofId? (id : String) : Option SqlFault :=
  all.find? (·.id == id)

@[simp] theorem ofId?_id (f : SqlFault) : ofId? f.id = some f := by
  cases f <;> decide

/-- Each fault has a name of its own. -/
theorem id_inj {f g : SqlFault} (same : f.id = g.id) : f = g := by
  have found := congrArg ofId? same
  rw [ofId?_id, ofId?_id] at found
  exact Option.some.inj found

/-- The rule of a category's name. -/
def rule? (id : String) : Option Rule :=
  (ofId? id).map rule

@[simp] theorem rule?_id (f : SqlFault) : rule? f.id = some f.rule := by
  rw [rule?, ofId?_id]
  rfl

end SqlFault

/-- The rule for a payment that may be made twice. -/
def paymentRule : Rule where
  id := "payment.missing-idempotency"
  severity := .blocker
  title := "Missing payment idempotency"
  remediation :=
    "Send a unique, per-operation idempotency key in the location the provider documents."

/-- The names of all categories that need no table, in order. -/
def builtinCategories : List String :=
  paymentRule.id :: SqlFault.all.map SqlFault.id

end TraceAudit
