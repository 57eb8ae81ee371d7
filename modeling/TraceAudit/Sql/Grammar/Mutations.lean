import TraceAudit.Sql.Grammar.Queries

/-!
# Changes of data

Statements that insert, update, delete or merge rows or empty tables.
-/

namespace TraceAudit.Sql.Grammar

/-- A column, or several, with the value to give. -/
def assignment (r : Rules) : Grammar Unit := do
  if ← peekSymbol "(" then parens (commas objectName) else objectName
  symbol "="
  discard (r.expr 0)

/-- The condition of a change, if there is one. -/
def condition? (r : Rules) : Grammar (Option Expr) := do
  if ← keyword? "WHERE" then return some (← r.expr 0) else return none

/-- What to do about a row that is already there. -/
def conflictChoice? : Grammar Unit := do
  match ← get with
  | .word _ _ "OR" :: .word _ _ k :: rest =>
      if ["REPLACE", "ROLLBACK", "ABORT", "FAIL", "IGNORE"].contains k then set rest
  | _ => return

/-- An update after its keyword. -/
def updateBody (r : Rules) : Grammar (Option Expr) := do
  conflictChoice?
  discard r.tables
  keyword "SET"
  commas (assignment r)
  whenKeyword "FROM" (discard r.tables)
  let condition ← condition? r
  returning? r
  return condition

/-- A deletion after its keyword. -/
def deleteBody (r : Rules) : Grammar (Option Expr) := do
  optional "FROM"
  tableList r
  whenKeyword "USING" (tableList r)
  let condition ← condition? r
  returning? r
  whenKeywords ["ORDER", "BY"] (commas (orderItem r))
  whenKeyword "LIMIT" (discard (limit r))
  return condition

/-- The partition that rows go into, if it is given. -/
def insertPartition? (r : Rules) : Grammar Unit :=
  whenKeyword "PARTITION" (discard (parens (commas (r.expr 0))))

/-- Whether a query in parentheses comes next. -/
def peekSubquery : Grammar Bool := do
  match ← get with
  | .symbol "(" :: .word _ _ k :: _ => return k == "SELECT" || k == "WITH"
  | _ => return false

/-- What happens to a row that is already there. -/
def onConflict? (r : Rules) : Grammar Unit :=
  whenKeyword "ON" do
    if ← keyword? "CONFLICT" then
      if ← keywords? ["ON", "CONSTRAINT"] then objectName else nameList?
      keyword "DO"
      unless ← keyword? "NOTHING" do
        keywords ["UPDATE", "SET"]
        commas (assignment r)
        discard (condition? r)
    else
      keywords ["DUPLICATE", "KEY", "UPDATE"]
      commas (assignment r)

/-- The format of the files that hold rows. -/
def fileFormat : Grammar Unit :=
  discard (oneOf ["AVRO", "JSONFILE", "ORC", "PARQUET", "RCFILE", "SEQUENCEFILE", "TEXTFILE"])

/-- An insertion after its keyword. -/
def insertBody (r : Rules) : Grammar Unit := do
  conflictChoice?
  optionalOf ["LOW_PRIORITY", "DELAYED", "HIGH_PRIORITY"]
  optional "IGNORE"
  optional "OVERWRITE"
  optional "INTO"
  optional "LOCAL"
  if ← keyword? "DIRECTORY" then
    literalText
    whenKeywords ["STORED", "AS"] fileFormat
    discard r.query
  else
    optional "TABLE"
    objectName
    unless ← keywords? ["DEFAULT", "VALUES"] do
      unless ← peekSubquery do
        nameList?
        insertPartition? r
      discard r.query
    whenKeyword "AS" do
      objectName
      nameList?
    onConflict? r
    returning? r

/-- A query: common tables, then rows, an insertion or an update. -/
def queryAt (r : Rules) : Grammar QueryBody := nested do
  whenKeyword "WITH" do
    optional "RECURSIVE"
    commas (commonTable r)
  if ← keyword? "INSERT" then
    insertBody r
    return .insert
  else if ← keyword? "UPDATE" then return .update (← updateBody r)
  else
    let body ← r.queryBody 0
    queryTail r
    return body

/-- A statement that empties tables, after its keyword. -/
def truncateBody (r : Rules) : Grammar Statement := do
  optional "TABLE"
  optional "ONLY"
  let tables ← commaSeparated qualifiedName
  whenKeyword "PARTITION" (discard (parens (commas (r.expr 0))))
  unless ← keywords? ["RESTART", "IDENTITY"] do discard (keywords? ["CONTINUE", "IDENTITY"])
  cascade?
  onCluster?
  return .truncate tables

/-- What a merge does to a row. -/
def mergeAction (r : Rules) (isNew : Bool) : Grammar Unit := do
  match ← oneOf ["UPDATE", "INSERT", "DELETE"] with
  | "UPDATE" =>
      if isNew then fail
      keyword "SET"
      commas (assignment r)
  | "DELETE" => if isNew then fail
  | _ =>
      unless isNew do fail
      nameList?
      unless ← keyword? "ROW" do
        keyword "VALUES"
        valueRows r false

/-- A merge after its keyword. -/
def mergeBody (r : Rules) : Grammar Unit := do
  optional "INTO"
  discard (tableFactor r)
  keyword "USING"
  discard (tableFactor r)
  keyword "ON"
  discard (r.expr 0)
  repeatWhile do
    if (← atEnd) || (← peekSymbol ";") then return false
    keyword "WHEN"
    let isNew ← keyword? "NOT"
    keyword "MATCHED"
    let isNew ← if isNew && (← keywords? ["BY", "SOURCE"]) then pure false
      else do
        if isNew then discard (keywords? ["BY", "TARGET"])
        pure isNew
    whenKeyword "AND" (discard (r.expr 0))
    keyword "THEN"
    mergeAction r isNew
    return true

/-! ## Bulk copies -/

/-- A setting of a bulk copy, in the list of them. -/
def copyOption : Grammar Unit := do
  match ← oneOf ["FORMAT", "FREEZE", "DELIMITER", "NULL", "HEADER", "QUOTE", "ESCAPE",
      "FORCE_QUOTE", "FORCE_NOT_NULL", "FORCE_NULL", "ENCODING"] with
  | "FORMAT" => discard name
  | "FREEZE" | "HEADER" => optionalOf ["TRUE", "FALSE"]
  | "DELIMITER" | "QUOTE" | "ESCAPE" => literalByte
  | "NULL" | "ENCODING" => literalText
  | _ => nameList

/-- A setting of a bulk copy of separated values, in the older spelling. -/
def separatedOption : Grammar Unit := do
  match ← oneOf ["HEADER", "QUOTE", "ESCAPE", "FORCE"] with
  | "HEADER" => return
  | "FORCE" =>
      unless ← keywords? ["NOT", "NULL"] do keyword "QUOTE"
      commas name
  | _ =>
      optional "AS"
      literalByte

/-- A setting of a bulk copy, in the older spelling. -/
def olderCopyOption : Grammar Unit := do
  match ← oneOf ["BINARY", "DELIMITER", "NULL", "CSV"] with
  | "BINARY" => return
  | "DELIMITER" =>
      optional "AS"
      literalByte
  | "NULL" =>
      optional "AS"
      literalText
  | _ => repeatWhile do return (← attempt separatedOption).isSome

/-- The tokens after the mark that ends rows given in place. -/
def afterRows : List Token → List Token
  | .symbol "\\" :: .symbol "." :: ts => ts
  | .symbol "\\" :: _ :: ts => afterRows ts
  | _ :: ts => afterRows ts
  | [] => []

/-- A bulk copy after its keyword. Rows that come from standard input follow the statement. -/
def copyBody (r : Rules) : Grammar Unit := do
  if ← symbol? "(" then
    discard r.query
    symbol ")"
    keyword "TO"
  else
    objectName
    nameList?
    discard (oneOf ["FROM", "TO"])
  let inPlace ← keyword? "STDIN"
  unless inPlace do
    unless ← keyword? "STDOUT" do
      optional "PROGRAM"
      literalText
  optional "WITH"
  if ← peekSymbol "(" then parens (commas copyOption)
  repeatWhile do return (← attempt olderCopyOption).isSome
  if inPlace then
    symbol ";"
    modify afterRows

end TraceAudit.Sql.Grammar
