import TraceAudit.Sql.Expr

/-!
# SQL statements

What a statement does to stored data, as far as a text tells it.
-/

namespace TraceAudit.Sql

/-- What a statement drops. -/
inductive DropKind where
  | table
  | database
  | other
  deriving DecidableEq, Repr

/-- What a query does once its common tables are set up. -/
inductive QueryBody where
  /-- It yields rows. -/
  | rows
  | insert
  /-- It updates the rows that the condition selects, or all. -/
  | update (condition : Option Expr)
  deriving DecidableEq, Repr

inductive Statement where
  /-- Deletes the rows that the condition selects, or all. -/
  | delete (condition : Option Expr)
  /-- Updates the rows that the condition selects, or all. -/
  | update (condition : Option Expr)
  /-- Empties tables, each given by its name with its qualifiers. -/
  | truncate (tables : List (List String))
  | drop (kind : DropKind)
  | query (body : QueryBody)
  | explain
  | other
  deriving DecidableEq, Repr

end TraceAudit.Sql
