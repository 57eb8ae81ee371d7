import TraceAudit.Sql.Grammar.Definitions
import TraceAudit.Text.AsciiCase

/-!
# Sessions

Statements about transactions, settings, rights and the other business of a session.
-/

namespace TraceAudit.Sql.Grammar

/-! ## Transactions -/

/-- One property of a transaction, if there is one. -/
def transactionMode? : Grammar Bool := do
  if ← keywords? ["ISOLATION", "LEVEL"] then
    if ← keywords? ["READ", "UNCOMMITTED"] then return true
    else if ← keywords? ["READ", "COMMITTED"] then return true
    else if ← keywords? ["REPEATABLE", "READ"] then return true
    else
      keyword "SERIALIZABLE"
      return true
  else if ← keywords? ["READ", "ONLY"] then return true
  else keywords? ["READ", "WRITE"]

/-- The properties of a transaction, with or without commas. -/
def transactionModes : Grammar Unit := do
  let owed ← iterate (fun owed => do
    if ← transactionMode? then return some (← symbol? ",")
    else if owed then fail
    else return none) false
  if owed then fail

/-- Whether a new transaction follows at once. -/
def chain? : Grammar Unit := do
  optionalOf ["TRANSACTION", "WORK"]
  if ← keyword? "AND" then
    optional "NO"
    keyword "CHAIN"

/-- The start of a transaction after `BEGIN`. -/
def beginBody : Grammar Unit := do
  optionalOf ["DEFERRED", "IMMEDIATE", "EXCLUSIVE"]
  optionalOf ["TRANSACTION", "WORK"]
  transactionModes

/-- The end of a transaction that undoes it, after its keyword. -/
def rollbackBody : Grammar Unit := do
  chain?
  if ← keyword? "TO" then
    optional "SAVEPOINT"
    discard name

/-! ## Settings -/

/-- Values of a variable, with commas between them. -/
def variableValues (r : Rules) : Grammar Unit := commas do
  if ← peekAny ["SELECT", "WITH"] then discard r.query else discard (r.expr 0)

/-- The name that comes next, if it is neither quoted nor qualified. -/
def bareName? : Grammar (Option String) := do
  match ← get with
  | .word text none _ :: rest => return if isSymbol "." rest.head? then none else some text
  | _ => return none

/-- A setting after `SET`. The names `TRANSACTION` and `CHARACTERISTICS` are in capital letters. -/
def setBody (r : Rules) : Grammar Unit := do
  let role : Grammar Unit := do
    keyword "ROLE"
    discard name
  let modifier ← oneOf? ["SESSION", "LOCAL", "HIVEVAR"]
  if modifier == some "HIVEVAR" then symbol ":"
  else if (← attempt role).isSome then return
  if ← keywords? ["TIME", "ZONE"] then
    if (← symbol? "=") || (← keyword? "TO") then variableValues r
    else discard (r.expr 0)
  else if ← symbol? "(" then
    commas name
    symbol ")"
    unless ← symbol? "=" do keyword "TO"
    parens (variableValues r)
  else
    let bare ← bareName?
    objectName
    if bare.any (Text.sameIgnoringCase "names") then
      unless ← keyword? "DEFAULT" do
        literalText
        whenKeyword "COLLATE" literalText
    else if (← symbol? "=") || (← keyword? "TO") then variableValues r
    else if bare.any (Text.sameIgnoringCase "timezone") then discard (r.expr 0)
    else if bare == some "CHARACTERISTICS" then
      keywords ["AS", "TRANSACTION"]
      transactionModes
    else if bare == some "TRANSACTION" && modifier.isNone then
      if ← keyword? "SNAPSHOT" then discard value else transactionModes
    else fail

/-- Which of the things are shown. -/
def showFilter (r : Rules) : Grammar Unit := do
  if (← oneOf? ["LIKE", "ILIKE"]).isSome then literalText
  else if ← keyword? "WHERE" then discard (r.expr 0)
  else discard (attempt literalText)

/-- Whose things are shown, which of them, and how many. -/
def showOptions (r : Rules) : Grammar Unit := do
  if (← oneOf? ["IN", "FROM"]).isSome then
    if (← oneOf? ["ACCOUNT", "DATABASE", "SCHEMA", "TABLE", "VIEW"]).isSome then
      unless (← peekKeyword "STARTS") || (← peekKeyword "LIMIT") do
        discard (attempt objectName)
    else
      objectName
      if (← oneOf? ["FROM", "IN"]).isSome then discard name
  showFilter r
  whenKeywords ["STARTS", "WITH"] (discard value)
  whenKeyword "LIMIT" (discard (limit r))
  whenKeyword "FROM" (discard value)

/-- A question about the session after `SHOW`. Where it names a variable, all that follows up to
an equals sign belongs to the name. -/
def showBody (r : Rules) : Grammar Unit := do
  optional "TERSE"
  let extended ← keyword? "EXTENDED"
  let full ← keyword? "FULL"
  optional "SESSION"
  optional "GLOBAL"
  optional "EXTERNAL"
  if (← oneOf? ["COLUMNS", "FIELDS", "TABLES"]).isSome then showOptions r
  else if ← keywords? ["MATERIALIZED", "VIEWS"] then showOptions r
  else if ← keyword? "VIEWS" then showOptions r
  else if ← keyword? "FUNCTIONS" then showFilter r
  else if extended || full then fail
  else if ← keyword? "CREATE" then
    discard (oneOf ["TABLE", "TRIGGER", "FUNCTION", "PROCEDURE", "EVENT", "VIEW"])
    objectName
  else if (← oneOf? ["COLLATION", "VARIABLES", "STATUS"]).isSome then showFilter r
  else if (← oneOf? ["DATABASES", "SCHEMAS"]).isSome then
    optional "HISTORY"
    showOptions r
  else
    modify fun ts => ts.dropWhile fun t => !isSymbol "=" (some t)

/-! ## Rights -/

/-- One right. -/
def permission : Grammar Unit := do
  match ← oneOf ["SELECT", "INSERT", "UPDATE", "REFERENCES", "DELETE", "CONNECT", "CREATE",
      "EXECUTE", "TEMPORARY", "TRIGGER", "TRUNCATE", "USAGE"] with
  | "SELECT" | "INSERT" | "UPDATE" | "REFERENCES" => nameList?
  | _ => return

/-- Rights and the objects they are about. -/
def rights : Grammar Unit := do
  if ← keyword? "ALL" then optional "PRIVILEGES" else commas permission
  keyword "ON"
  if ← keywords? ["ALL", "TABLES", "IN", "SCHEMA"] then commas objectName
  else if ← keywords? ["ALL", "SEQUENCES", "IN", "SCHEMA"] then commas objectName
  else
    optionalOf ["SEQUENCE", "SCHEMA", "TABLE"]
    commas objectName

/-- A grant after its keyword. -/
def grantBody : Grammar Unit := do
  rights
  keyword "TO"
  commas name
  discard (keywords? ["WITH", "GRANT", "OPTION"])
  whenKeywords ["GRANTED", "BY"] (discard name)

/-- A revocation after its keyword. -/
def revokeBody : Grammar Unit := do
  rights
  keyword "FROM"
  commas name
  whenKeywords ["GRANTED", "BY"] (discard name)
  cascade?

/-! ## Cursors and prepared statements -/

/-- The declaration of a cursor after its keyword. -/
def declareBody (r : Rules) : Grammar Unit := do
  discard name
  optional "BINARY"
  optionalOf ["INSENSITIVE", "ASENSITIVE"]
  unless ← keyword? "SCROLL" do discard (keywords? ["NO", "SCROLL"])
  keyword "CURSOR"
  match ← oneOf? ["WITH", "WITHOUT"] with
  | some _ => keyword "HOLD"
  | none => pure ()
  keyword "FOR"
  discard r.query

/-- How far a cursor moves. -/
def fetchDirection : Grammar Unit := do
  match ← oneOf? ["NEXT", "PRIOR", "FIRST", "LAST", "ABSOLUTE", "RELATIVE", "FORWARD", "ALL",
      "BACKWARD"] with
  | none => numberValue
  | some k =>
      match k with
      | "ABSOLUTE" | "RELATIVE" => numberValue
      | "FORWARD" | "BACKWARD" => unless ← keyword? "ALL" do numberValue
      | _ => return

/-- A step of a cursor after its keyword. -/
def fetchBody : Grammar Unit := do
  fetchDirection
  discard (oneOf ["FROM", "IN"])
  discard name
  whenKeyword "INTO" objectName

/-- The preparation of a statement after its keyword. -/
def prepareBody (r : Rules) : Grammar Unit := do
  discard name
  if ← peekSymbol "(" then discard (parens (commaSeparated r.dataType))
  keyword "AS"
  discard r.statement

/-- The execution of a prepared statement after its keyword. -/
def executeBody (r : Rules) : Grammar Unit := do
  objectName
  if ← symbol? "(" then
    unless ← symbol? ")" do
      commas (r.expr 0)
      symbol ")"
  else unless (← atEnd) || (← peekSymbol ";") || (← peekKeyword "USING") do commas (r.expr 0)
  whenKeyword "USING" (commas (r.expr 0))

/-! ## Upkeep -/

/-- What a plan is asked for: a statement, or else a table by name. A plan of a plan is
refused. -/
def explainBody (r : Rules) (isExplain : Bool) : Grammar Unit := do
  if isExplain && (← peekSymbol "(") then
    parens <| commas do
      discard name
      unless (← peekSymbol ",") || (← peekSymbol ")") do discard (r.expr 0)
  else if ← keywords? ["QUERY", "PLAN"] then pure ()
  else if ← keyword? "ESTIMATE" then pure ()
  else
    optional "ANALYZE"
    optional "VERBOSE"
    if ← keyword? "FORMAT" then discard (oneOf ["TEXT", "GRAPHVIZ", "JSON"])
  match ← attempt r.statement with
  | some .explain => fail
  | some _ => return
  | none =>
      optionalOf ["EXTENDED", "FORMATTED"]
      objectName

/-- An analysis of a table after its keyword. -/
def analyzeBody (r : Rules) : Grammar Unit := do
  keyword "TABLE"
  objectName
  repeatWhile do
    match ← oneOf? ["PARTITION", "NOSCAN", "FOR", "CACHE", "COMPUTE"] with
    | none => return false
    | some k => do
        match k with
        | "PARTITION" => discard (parens (commas (r.expr 0)))
        | "FOR" =>
            keyword "COLUMNS"
            discard (attempt (commas name))
        | "CACHE" => keyword "METADATA"
        | "COMPUTE" => keyword "STATISTICS"
        | _ => pure ()
        return true

/-- A flush after its keyword. The list of tables ends with the first token that is no word, and
takes it. -/
def flushBody : Grammar Unit := do
  optionalOf ["NO_WRITE_TO_BINLOG", "LOCAL"]
  if ← keyword? "TABLES" then
    repeatWhile do
      match ← get with
      | [] => return false
      | .word _ _ k :: rest =>
          match k with
          | "WITH" =>
              set rest
              discard (keywords? ["READ", "LOCK"])
          | "FOR" =>
              set rest
              optional "EXPORT"
          | _ => commas objectName
          return true
      | _ :: rest =>
          set rest
          return false
  else if ← keywords? ["RELAY", "LOGS"] then
    if ← keywords? ["FOR", "CHANNEL"] then discard next
  else
    match ← oneOf ["BINARY", "ENGINE", "ERROR", "GENERAL", "SLOW", "HOSTS", "PRIVILEGES",
        "OPTIMIZER_COSTS", "STATUS", "USER_RESOURCES", "LOGS"] with
    | "BINARY" | "ENGINE" | "ERROR" | "GENERAL" | "SLOW" => keyword "LOGS"
    | _ => return

/-- A comment on an object after its keyword. -/
def commentBody : Grammar Unit := do
  ifExists
  keyword "ON"
  discard (oneOf ["COLUMN", "TABLE", "EXTENSION", "SCHEMA", "DATABASE", "USER", "ROLE"])
  objectName
  keyword "IS"
  unless ← keyword? "NULL" do literalText

/-- The value of a directive. -/
def directiveValue : Grammar Unit := do
  match ← value with
  | .number _ => return
  | .text .single _ => return
  | .text .double _ => return
  | .placeholder _ => return
  | _ => fail

/-- A directive after its keyword. -/
def pragmaBody : Grammar Unit := do
  objectName
  if ← symbol? "(" then
    directiveValue
    symbol ")"
  else if ← symbol? "=" then directiveValue

/-- The optimization of a table after its keyword. -/
def optimizeBody (r : Rules) : Grammar Unit := do
  keyword "TABLE"
  objectName
  onCluster?
  if ← keyword? "PARTITION" then
    if ← keyword? "ID" then discard name else discard (r.expr 0)
  optional "FINAL"
  if ← keyword? "DEDUPLICATE" then
    if ← keyword? "BY" then discard (r.expr 0)

/-- The repair of a table's partitions after its keyword. -/
def msckBody : Grammar Unit := do
  optional "REPAIR"
  keyword "TABLE"
  objectName
  if (← oneOf? ["ADD", "DROP", "SYNC"]).isSome then keyword "PARTITIONS"

/-- Keeping a table in memory, after the keyword. -/
def cacheBody (r : Rules) : Grammar Unit := do
  if ← keyword? "TABLE" then
    objectName
  else
    objectName
    keyword "TABLE"
    objectName
  whenKeyword "OPTIONS" (options r)
  optional "AS"
  if ← peekAny ["SELECT", "WITH"] then discard r.query

end TraceAudit.Sql.Grammar
