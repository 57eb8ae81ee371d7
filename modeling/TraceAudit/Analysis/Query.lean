import TraceAudit.Analysis.Outcome
import TraceAudit.Rules.Catalog
import TraceAudit.Sql.Parse
import TraceAudit.Sql.Predicate

/-!
# Faults of queries

A query breaks a rule when one of its statements does. A text that cannot be read, or that holds
no statement, is a gap and never passes as clean.
-/

namespace TraceAudit.Sql

/-- The starts of the names of tables that anyone may empty. -/
def disposableStarts : List String := ["tmp_", "scratch_", "temp_"]

/-- Whether a table, given by its qualified name, may be emptied. -/
def isDisposable (table : List String) : Bool :=
  let name := Text.lower (table.getLast?.getD "")
  disposableStarts.any fun start => start.toList.isPrefixOf name.toList

/-- The fault of changing the rows that a condition selects: `all` when there is no condition,
`always` when it is always true. -/
def mutationFault? (all always : SqlFault) : Option Expr → Option SqlFault
  | none => some all
  | some e => if (Predicate.ofExpr e).isTautology then some always else none

/-- The fault of a statement. -/
def Statement.fault? : Statement → Option SqlFault
  | .delete condition => mutationFault? .deleteAll .deleteAlways condition
  | .update condition => mutationFault? .updateAll .updateAlways condition
  | .truncate tables => if tables.all isDisposable then none else some .truncate
  | .drop .table => some .dropTable
  | .drop .database => some .dropDatabase
  | .drop .other => none
  | .query _ => none
  | .explain => none
  | .other => none

/-- Rules by the names of their categories, in the order of the names, with one rule more unless
there is one of its name. -/
def addRule (id : String) (rule : Rule) : List (String × Rule) → List (String × Rule)
  | [] => [(id, rule)]
  | (other, kept) :: rest =>
      if id < other then (id, rule) :: (other, kept) :: rest
      else if id = other then (other, kept) :: rest
      else (other, kept) :: addRule id rule rest

/-- The rules found so far, with the one that a statement breaks. -/
def addStatement (found : List (String × Rule)) (s : Statement) : List (String × Rule) :=
  match s.fault? with
  | none => found
  | some f =>
      match SqlFault.rule? f.id with
      | none => found
      | some rule => addRule f.id rule found

/-- The rules that statements break. However often one is broken, it counts once. -/
def brokenRules (statements : List Statement) : List Rule :=
  (statements.foldl addStatement []).map Prod.snd

/-- The outcome for a query. -/
def checkQuery (query : String) : Outcome :=
  match parse? query with
  | none => .gap .unanalyzableSql
  | some [] => .gap .unanalyzableSql
  | some (s :: rest) =>
      .analyzed ((brokenRules (s :: rest)).map fun rule => ⟨rule, Text.trim query, none⟩)

end TraceAudit.Sql
