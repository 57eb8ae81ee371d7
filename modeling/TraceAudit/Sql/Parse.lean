import TraceAudit.Sql.Grammar.Sessions

/-!
# Reading SQL

A text holds statements with semicolons between them. A text in which any statement cannot be read
is refused as a whole, and so is one that nests more than fifty levels deep.
-/

namespace TraceAudit.Sql

namespace Grammar

/-- The statement that a keyword starts, after the keyword. -/
def statementAfter (r : Rules) (k : String) : Grammar Statement := do
  let other (g : Grammar Unit) : Grammar Statement := do g; return .other
  match k with
  | "DELETE" => return .delete (← deleteBody r)
  | "UPDATE" => return .update (← updateBody r)
  | "TRUNCATE" => truncateBody r
  | "DROP" => dropBody r
  | "INSERT" | "REPLACE" => other (insertBody r)
  | "MERGE" => other (mergeBody r)
  | "COPY" => other (copyBody r)
  | "CREATE" => other (createBody r)
  | "ALTER" => other (alterBody r)
  | "EXPLAIN" => do
      explainBody r true
      return .explain
  | "DESC" | "DESCRIBE" => do
      explainBody r false
      return .explain
  | "ANALYZE" => other (analyzeBody r)
  | "KILL" => other do
      optionalOf ["CONNECTION", "QUERY", "MUTATION"]
      literalNumber
  | "FLUSH" => other flushBody
  | "ATTACH" => other do
      optional "DATABASE"
      discard (r.expr 0)
      keyword "AS"
      discard name
  | "DETACH" => other do
      optional "DATABASE"
      ifExists
      discard name
  | "MSCK" => other msckBody
  | "CACHE" => other (cacheBody r)
  | "UNCACHE" => other do
      keyword "TABLE"
      ifExists
      objectName
  | "DISCARD" => other (discard (oneOf ["ALL", "PLANS", "SEQUENCES", "TEMPORARY", "TEMP"]))
  | "DECLARE" => other (declareBody r)
  | "FETCH" => other fetchBody
  | "CLOSE" => other do unless ← keyword? "ALL" do discard name
  | "CALL" => other do
      objectName
      if ← peekSymbol "(" then call r
  | "SET" => other (setBody r)
  | "SHOW" => other (showBody r)
  | "USE" => other objectName
  | "GRANT" => other grantBody
  | "REVOKE" => other revokeBody
  | "START" => other do
      keyword "TRANSACTION"
      transactionModes
  | "BEGIN" => other beginBody
  | "END" => other chain?
  | "COMMIT" => other chain?
  | "ROLLBACK" => other rollbackBody
  | "SAVEPOINT" => other (discard name)
  | "RELEASE" => other do
      optional "SAVEPOINT"
      discard name
  | "ASSERT" => other do
      discard (r.expr 0)
      whenKeyword "AS" (discard (r.expr 0))
  | "DEALLOCATE" => other do
      optional "PREPARE"
      discard name
  | "EXECUTE" | "EXEC" => other (executeBody r)
  | "PREPARE" => other (prepareBody r)
  | "PRAGMA" => other pragmaBody
  | "UNLOAD" => other do
      discard (parens r.query)
      keyword "TO"
      discard name
      whenKeyword "WITH" (options r)
  | "INSTALL" | "LOAD" => other (discard name)
  | "OPTIMIZE" => other (optimizeBody r)
  | "COMMENT" => other commentBody
  | _ => fail

/-- One statement. -/
def statementAt (r : Rules) : Grammar Statement := nested do
  if (← peekAny ["SELECT", "WITH", "VALUES"]) || (← peekSymbol "(") then
    return .query (← r.query)
  else
    match ← next with
    | .word _ _ k => statementAfter r k
    | _ => fail

/-- The rules with as many levels of reference below them as given. -/
def rules : Nat → Rules
  | 0 => ⟨fun _ => fail, fail, fail, fail, fun _ => fail, fail, fail⟩
  | n + 1 =>
      let r := rules n
      ⟨exprBody r, operandBody r, typeBody r, queryAt r, queryBodyAt r, tablesBody r,
        statementAt r⟩

end Grammar

/-- How many levels a text may nest. -/
def maxNesting : Nat := 50

/-- The statements of a list of tokens, up to an `END` right after one of them. A rule refers to
another at most three times without taking a token. -/
def statementsOf? (tokens : List Token) : Option (List Statement) :=
  match Grammar.statements (Grammar.rules (3 * tokens.length + 8)) maxNesting tokens with
  | .ok (found, _) => some found
  | .error _ => none

/-- The statements that a text holds; none if it cannot be read. -/
def parse? (s : String) : Option (List Statement) :=
  (scan s).bind statementsOf?

end TraceAudit.Sql
