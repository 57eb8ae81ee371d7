import TraceAudit.Sql.Grammar.Mutations

/-!
# Definitions

Statements that create, alter and drop tables, views, indexes and the other objects of a database.
-/

namespace TraceAudit.Sql.Grammar

/-! ## Columns -/

/-- What a foreign key refers to, after the keyword. -/
def references : Grammar Unit := do
  objectName
  nameList?
  repeatWhile do
    if ← keyword? "ON" then
      discard (oneOf ["DELETE", "UPDATE"])
      match ← oneOf ["RESTRICT", "CASCADE", "SET", "NO"] with
      | "SET" => discard (oneOf ["NULL", "DEFAULT"])
      | "NO" => keyword "ACTION"
      | _ => pure ()
      return true
    else return false

/-- Whether and when a constraint is checked. -/
def enforcement? : Grammar Unit :=
  repeatWhile do
    if ← keyword? "DEFERRABLE" then return true
    else if ← keywords? ["NOT", "DEFERRABLE"] then return true
    else if ← keywords? ["NOT", "ENFORCED"] then return true
    else if ← keyword? "ENFORCED" then return true
    else if ← keyword? "INITIALLY" then
      discard (oneOf ["DEFERRED", "IMMEDIATE"])
      return true
    else return false

/-- Settings of a counter, in their order. -/
def sequenceOptions : Grammar Unit := do
  whenKeyword "INCREMENT" do
    optional "BY"
    signedNumber
  unless ← keywords? ["NO", "MINVALUE"] do whenKeyword "MINVALUE" numberValue
  unless ← keywords? ["NO", "MAXVALUE"] do whenKeyword "MAXVALUE" numberValue
  whenKeyword "START" do
    optional "WITH"
    numberValue
  whenKeyword "CACHE" numberValue
  unless ← keywords? ["NO", "CYCLE"] do optional "CYCLE"

/-- Settings of a counter between parentheses, if there are some. -/
def sequenceOptions? : Grammar Unit := do
  if ← peekSymbol "(" then parens sequenceOptions

/-- How the values of a column come about, after `GENERATED`. -/
def generatedBody (r : Rules) : Grammar Unit := do
  if ← keywords? ["ALWAYS", "AS", "IDENTITY"] then sequenceOptions?
  else if ← keywords? ["BY", "DEFAULT", "AS", "IDENTITY"] then sequenceOptions?
  else
    keywords ["ALWAYS", "AS"]
    discard (parens (r.expr 0))
    optionalOf ["STORED", "VIRTUAL"]

/-- One property of a column, if there is one. -/
def columnProperty? (r : Rules) : Grammar Bool := do
  if ← keywords? ["CHARACTER", "SET"] then
    objectName
    return true
  else if ← keywords? ["NOT", "NULL"] then return true
  else if ← keywords? ["ON", "UPDATE"] then
    discard (r.expr 0)
    return true
  else if ← keywords? ["ON", "CONFLICT"] then
    discard (oneOf ["ROLLBACK", "ABORT", "FAIL", "IGNORE", "REPLACE"])
    return true
  else match ← oneOf? ["NULL", "COMMENT", "DEFAULT", "MATERIALIZED", "ALIAS", "EPHEMERAL",
      "PRIMARY", "UNIQUE", "REFERENCES", "CHECK", "AUTO_INCREMENT", "AUTOINCREMENT", "ASC",
      "DESC", "IDENTITY", "GENERATED", "OPTIONS", "AS"] with
    | none => return false
    | some k => do
        match k with
        | "COMMENT" => quotedText
        | "DEFAULT" | "MATERIALIZED" | "ALIAS" => discard (r.expr 0)
        | "EPHEMERAL" =>
            unless (← peekSymbol ",") || (← peekSymbol ")") do discard (r.expr 0)
        | "PRIMARY" =>
            keyword "KEY"
            enforcement?
        | "UNIQUE" => enforcement?
        | "REFERENCES" =>
            references
            enforcement?
        | "CHECK" => discard (parens (r.expr 0))
        | "IDENTITY" =>
            if ← peekSymbol "(" then
              parens do
                signedNumber
                symbol ","
                signedNumber
        | "GENERATED" => generatedBody r
        | "OPTIONS" => options r
        | "AS" =>
            discard (parens (r.expr 0))
            optionalOf ["STORED", "VIRTUAL"]
        | _ => pure ()
        return true

/-- The properties of a column, each perhaps by a name. -/
def columnProperties (r : Rules) : Grammar Unit := repeatWhile do
  if ← keyword? "CONSTRAINT" then
    discard name
    unless ← columnProperty? r do fail
    return true
  else if ← columnProperty? r then return true
  else if ← keyword? "COLLATE" then
    objectName
    return true
  else return false

/-- A column with its type and properties. -/
def columnDef (r : Rules) : Grammar Unit := do
  discard name
  discard r.dataType
  columnProperties r

/-! ## Constraints -/

/-- How an index is kept. -/
def indexMethod? : Grammar Unit :=
  whenKeyword "USING" (discard (oneOf ["BTREE", "HASH"]))

/-- The columns of a key, and how it is kept. -/
def keyColumns : Grammar Unit := do
  unless ← peekSymbol "(" do discard (attempt name)
  indexMethod?
  nameList
  repeatWhile do
    if ← peekKeyword "USING" then
      indexMethod?
      return true
    else if ← keyword? "COMMENT" then
      quotedText
      return true
    else return false
  enforcement?

/-- A constraint on a table, if there is one. The words `KEY` and `INDEX` announce an index. -/
def tableConstraint? (r : Rules) : Grammar Bool := do
  let labelled ← if ← keyword? "CONSTRAINT" then do discard name; pure true else pure false
  match ← oneOf? ["UNIQUE", "PRIMARY", "FOREIGN", "CHECK", "INDEX", "KEY", "FULLTEXT",
      "SPATIAL"] with
  | none => if labelled then fail else return false
  | some k => do
      match k with
      | "UNIQUE" =>
          optionalOf ["INDEX", "KEY"]
          if ← keyword? "NULLS" then
            optional "NOT"
            keyword "DISTINCT"
          keyColumns
      | "PRIMARY" =>
          keyword "KEY"
          keyColumns
      | "FOREIGN" =>
          keyword "KEY"
          nameList
          keyword "REFERENCES"
          references
          enforcement?
      | "CHECK" => discard (parens (r.expr 0))
      | "INDEX" | "KEY" =>
          if labelled then fail
          unless (← peekKeyword "USING") || (← peekSymbol "(") do discard name
          indexMethod?
          nameList
      | _ =>
          if labelled then fail
          optionalOf ["INDEX", "KEY"]
          unless ← peekSymbol "(" do discard name
          nameList
      return true

/-- The columns and constraints of a table between parentheses, if there are some. -/
def columns? (r : Rules) : Grammar Unit := do
  if ← symbol? "(" then
    unless ← symbol? ")" do
      commas do
        unless ← tableConstraint? r do
          match ← peek with
          | some (.word _ _ _) => columnDef r
          | _ => fail
      symbol ")"

/-! ## Tables -/

/-- How the rows of a file are told apart. -/
def rowFormat : Grammar Unit := do
  keyword "FORMAT"
  if ← keyword? "SERDE" then literalText
  else
    keyword "DELIMITED"
    repeatWhile do
      if ← keywords? ["FIELDS", "TERMINATED", "BY"] then
        discard name
        whenKeywords ["ESCAPED", "BY"] (discard name)
        return true
      else if (← keywords? ["COLLECTION", "ITEMS", "TERMINATED", "BY"]) ||
          (← keywords? ["MAP", "KEYS", "TERMINATED", "BY"]) ||
          (← keywords? ["LINES", "TERMINATED", "BY"]) ||
          (← keywords? ["NULL", "DEFINED", "AS"]) then
        discard name
        return true
      else return false

/-- How the rows of a table are spread over files, and where the files are. -/
def storage? (r : Rules) : Grammar Unit := do
  whenKeywords ["PARTITIONED", "BY"] <| parens <| commas (columnDef r)
  if ← keywords? ["CLUSTERED", "BY"] then
    nameList
    whenKeywords ["SORTED", "BY"] (parens (commas (orderItem r)))
    keyword "INTO"
    discard value
    keyword "BUCKETS"
  repeatWhile do
    if ← keyword? "ROW" then
      rowFormat
      return true
    else if ← keyword? "STORED" then
      keyword "AS"
      if ← keyword? "INPUTFORMAT" then
        discard (r.expr 0)
        keyword "OUTPUTFORMAT"
        discard (r.expr 0)
      else fileFormat
      return true
    else if ← keyword? "LOCATION" then
      literalText
      return true
    else if ← keywords? ["WITH", "SERDEPROPERTIES"] then
      options r
      return true
    else return false

/-- A word that an equals sign gives to a setting. -/
def settingWord : Grammar Unit := do
  symbol "="
  match ← next with
  | .word _ _ _ => return
  | _ => fail

/-- The settings of a table after its columns, in their order. -/
def tableSettings (r : Rules) : Grammar Unit := do
  whenKeyword "WITH" (options r)
  whenKeyword "TBLPROPERTIES" (options r)
  whenKeyword "ENGINE" do
    settingWord
    nameList?
  whenKeyword "AUTO_INCREMENT" do
    discard (symbol? "=")
    literalNumber
  whenKeywords ["PRIMARY", "KEY"] (discard (r.expr 0))
  whenKeywords ["ORDER", "BY"] do
    if ← symbol? "(" then
      unless ← symbol? ")" do
        commas (r.expr 0)
        symbol ")"
    else discard (r.expr 0)
  whenKeywords ["PARTITION", "BY"] (discard (r.expr 0))
  whenKeywords ["CLUSTER", "BY"] (commas name)
  whenKeyword "OPTIONS" (options r)
  whenKeywords ["DEFAULT", "CHARSET"] settingWord
  whenKeyword "COLLATE" settingWord
  whenKeywords ["ON", "COMMIT"] do
    unless ← keyword? "DROP" do
      discard (oneOf ["PRESERVE", "DELETE"])
      keyword "ROWS"
  optional "STRICT"
  whenKeyword "COMMENT" do
    discard (symbol? "=")
    quotedText

/-- The creation of a table after its keyword. -/
def createTable (r : Rules) : Grammar Unit := do
  ifNotExists
  objectName
  onCluster?
  if (← oneOf? ["LIKE", "ILIKE"]).isSome then discard (attempt objectName)
  whenKeyword "CLONE" (discard (attempt objectName))
  columns? r
  discard (keywords? ["WITHOUT", "ROWID"])
  storage? r
  tableSettings r
  if (← keyword? "AS") || (← peekKeyword "SELECT") then discard r.query

/-! ## Other objects -/

/-- The creation of a view after `VIEW`. -/
def createView (r : Rules) : Grammar Unit := do
  ifNotExists
  objectName
  if ← symbol? "(" then
    unless ← symbol? ")" do
      commas do
        discard name
        whenKeyword "OPTIONS" (options r)
        if ← keyword? "COMMENT" then quotedText
      symbol ")"
  whenKeyword "WITH" (options r)
  whenKeywords ["CLUSTER", "BY"] nameList?
  whenKeyword "OPTIONS" (options r)
  whenKeyword "TO" objectName
  whenKeyword "COMMENT" do
    symbol "="
    quotedText
  keyword "AS"
  discard r.query
  discard (keywords? ["WITH", "NO", "SCHEMA", "BINDING"])

/-- The creation of an index after its keyword. -/
def createIndex (r : Rules) : Grammar Unit := do
  optional "CONCURRENTLY"
  let conditional ← keywords? ["IF", "NOT", "EXISTS"]
  let unnamed ← if conditional then pure false else keyword? "ON"
  unless unnamed do
    objectName
    keyword "ON"
  objectName
  whenKeyword "USING" (discard name)
  parens (commas (orderItem r))
  whenKeyword "INCLUDE" nameList
  if ← keyword? "NULLS" then
    optional "NOT"
    keyword "DISTINCT"
  whenKeyword "WITH" (parens (commas (r.expr 0)))
  discard (condition? r)

/-- The creation of a schema after its keyword. -/
def createSchema : Grammar Unit := do
  ifNotExists
  if ← keyword? "AUTHORIZATION" then discard name
  else
    objectName
    whenKeyword "AUTHORIZATION" (discard name)

/-- The creation of a database after its keyword. -/
def createDatabase : Grammar Unit := do
  ifNotExists
  objectName
  repeatWhile do
    match ← oneOf? ["LOCATION", "MANAGEDLOCATION"] with
    | some _ =>
        literalText
        return true
    | none => return false

/-- The creation of a sequence after its keyword. -/
def createSequence (r : Rules) : Grammar Unit := do
  ifNotExists
  objectName
  if ← keyword? "AS" then discard r.dataType
  sequenceOptions
  if ← keywords? ["OWNED", "BY"] then
    unless ← keyword? "NONE" do objectName

/-- The creation of roles after the keyword. -/
def createRole : Grammar Unit := do
  ifNotExists
  commas objectName
  optional "WITH"

/-- One or more, with commas between them and perhaps after the last, up to a closing
parenthesis. -/
def listed (g : Grammar Unit) : Grammar Unit := do
  if ← symbol? "(" then
    unless ← symbol? ")" do
      repeatWhile do
        g
        let more ← symbol? ","
        if ← symbol? ")" then return false
        else if more then return true
        else fail

/-- The creation of a type after its keyword. -/
def createType (r : Rules) : Grammar Unit := do
  objectName
  keyword "AS"
  if ← keyword? "ENUM" then
    symbol "("
    unless ← symbol? ")" do
      commas name
      symbol ")"
  else listed do
    discard name
    discard r.dataType
    whenKeyword "COLLATE" objectName

/-- A parameter of a function. A type of the user's own in front is its name. -/
def parameter (r : Rules) : Grammar Unit := do
  optionalOf ["IN", "OUT", "INOUT"]
  if (← r.dataType) == .named then discard r.dataType
  if (← keyword? "DEFAULT") || (← symbol? "=") then discard (r.expr 0)

/-- The parameters of a function between parentheses. -/
def parameters (r : Rules) : Grammar Unit := do
  symbol "("
  unless ← symbol? ")" do
    commas (parameter r)
    symbol ")"

/-- One clause of the definition of a function, if there is one. -/
def functionClause? (r : Rules) : Grammar Bool := do
  if ← keywords? ["CALLED", "ON", "NULL", "INPUT"] then return true
  else if ← keywords? ["RETURNS", "NULL", "ON", "NULL", "INPUT"] then return true
  else match ← oneOf? ["AS", "LANGUAGE", "IMMUTABLE", "STABLE", "VOLATILE", "STRICT", "PARALLEL",
      "RETURN"] with
    | none => return false
    | some k => do
        match k with
        | "AS" =>
            match ← peek with
            | some (.text .dollar _) => discard next
            | _ => literalText
        | "LANGUAGE" => discard name
        | "PARALLEL" => discard (oneOf ["UNSAFE", "RESTRICTED", "SAFE"])
        | "RETURN" => discard (r.expr 0)
        | _ => pure ()
        return true

/-- The creation of a function after its keyword. -/
def createFunction (r : Rules) : Grammar Unit := do
  objectName
  parameters r
  whenKeyword "RETURNS" (discard r.dataType)
  repeatWhile (functionClause? r)

/-- A function by its name, and perhaps its parameters. -/
def functionName (r : Rules) : Grammar Unit := do
  objectName
  if ← peekSymbol "(" then parameters r

/-- The creation of a macro after its keyword. -/
def createMacro (r : Rules) : Grammar Unit := do
  objectName
  symbol "("
  unless ← symbol? ")" do
    commas do
      discard name
      if ← symbol? ":=" then discard (r.expr 0)
    symbol ")"
  keyword "AS"
  if ← keyword? "TABLE" then discard r.query else discard (r.expr 0)

/-- The creation of a trigger after its keyword. -/
def createTrigger (r : Rules) : Grammar Unit := do
  objectName
  if ← keyword? "INSTEAD" then keyword "OF" else discard (oneOf ["BEFORE", "AFTER"])
  let event : Grammar Unit := do
    match ← oneOf ["INSERT", "UPDATE", "DELETE", "TRUNCATE"] with
    | "UPDATE" => whenKeyword "OF" (commas name)
    | _ => pure ()
  event
  repeatWhile do
    if ← keyword? "OR" then
      event
      return true
    else return false
  keyword "ON"
  objectName
  whenKeyword "FROM" objectName
  enforcement?
  if ← keyword? "REFERENCING" then
    repeatWhile do
      match ← oneOf? ["OLD", "NEW"] with
      | some _ =>
          keyword "TABLE"
          optional "AS"
          objectName
          return true
      | none => return false
  keyword "FOR"
  optional "EACH"
  discard (oneOf ["ROW", "STATEMENT"])
  whenKeyword "WHEN" (discard (r.expr 0))
  keyword "EXECUTE"
  discard (oneOf ["FUNCTION", "PROCEDURE"])
  functionName r

/-- The creation of a policy after its keyword. -/
def createPolicy (r : Rules) : Grammar Unit := do
  discard name
  keyword "ON"
  objectName
  if ← keyword? "AS" then discard (oneOf ["PERMISSIVE", "RESTRICTIVE"])
  if ← keyword? "FOR" then discard (oneOf ["ALL", "SELECT", "INSERT", "UPDATE", "DELETE"])
  whenKeyword "TO" (commas name)
  whenKeyword "USING" (discard (parens (r.expr 0)))
  whenKeywords ["WITH", "CHECK"] (discard (parens (r.expr 0)))

/-- Statements with semicolons between them, up to the end of the tokens or to an `END` right after
a statement. -/
def statements (r : Rules) : Grammar (List Statement) := do
  let step (state : Bool × List Statement) : Grammar (Option (Bool × List Statement)) := do
    let (owed, found) := state
    if ← symbol? ";" then return some (false, found)
    else if ← atEnd then return none
    else if owed then
      if ← peekKeyword "END" then return none else fail
    else return some (true, (← r.statement) :: found)
  return (← iterate step (false, [])).2.reverse

/-- The creation of a procedure after its keyword. -/
def createProcedure (r : Rules) : Grammar Unit := do
  objectName
  listed do
    discard name
    discard r.dataType
  keywords ["AS", "BEGIN"]
  discard (statements r)
  keyword "END"

/-- The creation of an extension after its keyword. -/
def createExtension : Grammar Unit := do
  ifNotExists
  discard name
  if ← keyword? "WITH" then
    whenKeyword "SCHEMA" (discard name)
    whenKeyword "VERSION" (discard name)
    optional "CASCADE"

/-- The creation of a virtual table after its keyword. -/
def createVirtualTable : Grammar Unit := do
  keyword "TABLE"
  ifNotExists
  objectName
  keyword "USING"
  discard name
  nameList?

/-- The creation of an external table after its keyword. -/
def createExternalTable (r : Rules) : Grammar Unit := do
  keyword "TABLE"
  ifNotExists
  objectName
  columns? r
  storage? r
  whenKeyword "TBLPROPERTIES" (options r)

/-- The creation of a stored secret after its keyword. -/
def createSecret : Grammar Unit := do
  ifNotExists
  unless (← peekSymbol "(") || (← peekKeyword "IN") do discard name
  whenKeyword "IN" (discard name)
  parens do
    keyword "TYPE"
    discard name
    repeatWhile do
      if ← symbol? "," then
        discard name
        discard name
        return true
      else return false

/-- A creation after its keyword. -/
def createBody (r : Rules) : Grammar Unit := do
  let replacing ← keywords? ["OR", "REPLACE"]
  discard (keywords? ["OR", "ALTER"])
  optional "LOCAL"
  optional "GLOBAL"
  optional "TRANSIENT"
  optionalOf ["TEMP", "TEMPORARY"]
  match ← oneOf ["TABLE", "MATERIALIZED", "VIEW", "POLICY", "EXTERNAL", "FUNCTION", "TRIGGER",
      "CONSTRAINT", "MACRO", "SECRET", "EXTENSION", "INDEX", "UNIQUE", "VIRTUAL", "SCHEMA",
      "DATABASE",
      "ROLE", "SEQUENCE", "TYPE", "PROCEDURE"] with
  | "TABLE" => createTable r
  | "MATERIALIZED" =>
      keyword "VIEW"
      createView r
  | "VIEW" => createView r
  | "POLICY" => createPolicy r
  | "EXTERNAL" => createExternalTable r
  | "FUNCTION" => createFunction r
  | "TRIGGER" => createTrigger r
  | "CONSTRAINT" =>
      keyword "TRIGGER"
      createTrigger r
  | "MACRO" => createMacro r
  | "SECRET" => createSecret
  | other =>
      if replacing then fail
      match other with
      | "EXTENSION" => createExtension
      | "INDEX" => createIndex r
      | "UNIQUE" =>
          keyword "INDEX"
          createIndex r
      | "VIRTUAL" => createVirtualTable
      | "SCHEMA" => createSchema
      | "DATABASE" => createDatabase
      | "ROLE" => createRole
      | "SEQUENCE" => createSequence r
      | "TYPE" => createType r
      | "PROCEDURE" => createProcedure r
      | _ => fail

/-! ## Changes of objects -/

/-- Where a column goes among the others. -/
def columnPlace? : Grammar Unit := do
  unless ← keyword? "FIRST" do whenKeyword "AFTER" (discard name)

/-- The values that pick a partition. -/
def partition (r : Rules) : Grammar Unit := parens (commas (r.expr 0))

/-- What is added to a table. -/
def alterAdd (r : Rules) : Grammar Unit := do
  if ← tableConstraint? r then return
  if ← keyword? "PROJECTION" then
    ifNotExists
    discard name
    group
  else
    ifNotExists
    if ← peekKeyword "PARTITION" then
      repeatWhile do
        if ← keyword? "PARTITION" then
          partition r
          return true
        else return false
    else
      optional "COLUMN"
      ifNotExists
      columnDef r
      columnPlace?

/-- What is renamed in a table. -/
def alterRename : Grammar Unit := do
  if ← keyword? "TO" then objectName
  else
    optional "COLUMN"
    discard name
    keyword "TO"
    discard name

/-- What is dropped from a table. -/
def alterDrop (r : Rules) : Grammar Unit := do
  if ← keywords? ["IF", "EXISTS", "PARTITION"] then partition r
  else if ← keyword? "PARTITION" then partition r
  else if ← keywords? ["PRIMARY", "KEY"] then pure ()
  else if ← keyword? "PROJECTION" then
    ifExists
    discard name
  else
    unless ← keyword? "CONSTRAINT" do optional "COLUMN"
    ifExists
    discard name
    optional "CASCADE"

/-- What is altered about a column. -/
def alterColumn (r : Rules) : Grammar Unit := do
  optional "COLUMN"
  discard name
  if ← keywords? ["SET", "NOT", "NULL"] then pure ()
  else if ← keywords? ["DROP", "NOT", "NULL"] then pure ()
  else if ← keywords? ["SET", "DEFAULT"] then discard (r.expr 0)
  else if ← keywords? ["DROP", "DEFAULT"] then pure ()
  else if ← keywords? ["SET", "DATA", "TYPE"] then discard r.dataType
  else
    keywords ["ADD", "GENERATED"]
    unless ← keyword? "ALWAYS" do discard (keywords? ["BY", "DEFAULT"])
    keywords ["AS", "IDENTITY"]
    sequenceOptions?

/-- The new type, properties and place of a column. -/
def changedColumn (r : Rules) : Grammar Unit := do
  discard r.dataType
  repeatWhile (columnProperty? r)
  columnPlace?

/-- Rules and triggers that a table obeys from now on. -/
def alterEnable : Grammar Unit := do
  unless ← keywords? ["ROW", "LEVEL", "SECURITY"] do
    optionalOf ["ALWAYS", "REPLICA"]
    discard (oneOf ["RULE", "TRIGGER"])
    discard name

/-- Rules and triggers that a table no longer obeys. -/
def alterDisable : Grammar Unit := do
  unless ← keywords? ["ROW", "LEVEL", "SECURITY"] do
    discard (oneOf ["RULE", "TRIGGER"])
    discard name

/-- A partition whose files move, and the name they get. -/
def movedPartition (r : Rules) : Grammar Unit := do
  discard (oneOf ["PART", "PARTITION"])
  discard (r.expr 0)

/-- One change of a table. -/
def alterOperation (r : Rules) : Grammar Unit := do
  match ← oneOf ["ADD", "RENAME", "DROP", "ALTER", "MODIFY", "CHANGE", "OWNER", "SWAP", "SET",
      "ENABLE", "DISABLE", "CLEAR", "MATERIALIZE", "PARTITION", "ATTACH", "DETACH", "FREEZE",
      "UNFREEZE"] with
  | "ADD" => alterAdd r
  | "RENAME" => alterRename
  | "DROP" => alterDrop r
  | "ALTER" => alterColumn r
  | "MODIFY" =>
      optional "COLUMN"
      discard name
      changedColumn r
  | "CHANGE" =>
      optional "COLUMN"
      discard name
      discard name
      changedColumn r
  | "OWNER" =>
      keyword "TO"
      discard name
  | "SWAP" =>
      keyword "WITH"
      objectName
  | "SET" =>
      keyword "TBLPROPERTIES"
      options r
  | "ENABLE" => alterEnable
  | "DISABLE" => alterDisable
  | "CLEAR" | "MATERIALIZE" =>
      keyword "PROJECTION"
      ifExists
      discard name
      whenKeywords ["IN", "PARTITION"] (discard name)
  | "PARTITION" =>
      partition r
      keywords ["RENAME", "TO", "PARTITION"]
      partition r
  | "ATTACH" | "DETACH" => movedPartition r
  | _ =>
      movedPartition r
      whenKeywords ["WITH", "NAME"] (discard name)

/-- A change of an object after its keyword. -/
def alterBody (r : Rules) : Grammar Unit := do
  match ← oneOf ["VIEW", "TABLE", "INDEX", "POLICY"] with
  | "VIEW" =>
      objectName
      nameList?
      whenKeyword "WITH" (options r)
      keyword "AS"
      discard r.query
  | "TABLE" =>
      ifExists
      optional "ONLY"
      objectName
      onCluster?
      commas (alterOperation r)
      if (← keyword? "LOCATION") || (← keywords? ["SET", "LOCATION"]) then discard name
  | "INDEX" =>
      objectName
      keywords ["RENAME", "TO"]
      objectName
  | _ =>
      discard name
      keyword "ON"
      objectName
      if ← keywords? ["RENAME", "TO"] then discard name
      else
        whenKeyword "TO" (commas name)
        whenKeyword "USING" (discard (parens (r.expr 0)))
        whenKeywords ["WITH", "CHECK"] (discard (parens (r.expr 0)))

/-! ## Drops -/

/-- Functions by name and parameters. -/
def droppedFunctions (r : Rules) : Grammar Unit := do
  ifExists
  commas (functionName r)
  cascade?

/-- Several objects of one kind. -/
def droppedObjects (isRole : Bool) : Grammar Unit := do
  ifExists
  commas objectName
  let cascade ← keyword? "CASCADE"
  let restrict ← keyword? "RESTRICT"
  let purge ← keyword? "PURGE"
  if cascade && restrict then fail
  if isRole && (cascade || restrict || purge) then fail

/-- A drop after its keyword. -/
def dropBody (r : Rules) : Grammar Statement := do
  optional "TEMPORARY"
  match ← oneOf ["TABLE", "VIEW", "INDEX", "ROLE", "SCHEMA", "DATABASE", "SEQUENCE", "STAGE",
      "TYPE", "FUNCTION", "POLICY", "PROCEDURE", "SECRET", "TRIGGER"] with
  | "TABLE" =>
      droppedObjects false
      return .drop .table
  | "DATABASE" =>
      droppedObjects false
      return .drop .database
  | "ROLE" =>
      droppedObjects true
      return .drop .other
  | "FUNCTION" | "PROCEDURE" =>
      droppedFunctions r
      return .other
  | "POLICY" =>
      ifExists
      discard name
      keyword "ON"
      objectName
      cascade?
      return .other
  | "TRIGGER" =>
      ifExists
      objectName
      keyword "ON"
      objectName
      cascade?
      return .other
  | "SECRET" =>
      ifExists
      discard name
      whenKeyword "FROM" (discard name)
      return .other
  | _ =>
      droppedObjects false
      return .drop .other

end TraceAudit.Sql.Grammar
