import TraceAudit.Sql.Grammar.Names

/-!
# Data types

The types that columns, casts and typed literals name. A word that names no built-in type is the
name of a type of the user's own.
-/

namespace TraceAudit.Sql.Grammar

/-- A number between parentheses, if there is one. -/
def precision? : Grammar Unit := do
  if ← symbol? "(" then
    literalNumber
    symbol ")"

/-- One or two numbers between parentheses, if there are some. -/
def precisionAndScale? : Grammar Unit := do
  if ← symbol? "(" then
    literalNumber
    if ← symbol? "," then literalNumber
    symbol ")"

/-- The length of a character type, if it is given. -/
def characterLength? : Grammar Unit := do
  if ← symbol? "(" then
    unless ← keyword? "MAX" do
      literalNumber
      optionalOf ["CHARACTERS", "OCTETS"]
    symbol ")"

/-- Whether a time type carries a time zone, if it says so. -/
def timeZone? : Grammar Unit := do
  match ← oneOf? ["WITH", "WITHOUT"] with
  | some _ => keywords ["TIME", "ZONE"]
  | none => return

/-- The modifiers of a type of the user's own. -/
def typeModifiers? : Grammar Unit := do
  if ← symbol? "(" then
    repeatWhile do
      match ← next with
      | .word _ _ _ => return true
      | .number _ => return true
      | .text .single _ => return true
      | .symbol s => if s == "," then return true else if s == ")" then return false else fail
      | _ => fail

/-- The texts that an enumeration allows. -/
def textList : Grammar Unit := parens <| commas do
  match ← next with
  | .text .single _ => whenSymbol
  | _ => fail
where
  whenSymbol : Grammar Unit := do
    if ← symbol? "=" then literalNumber

/-- The fields of a structured type between angle brackets. -/
def angleFields (r : Rules) : Grammar Unit := do
  symbol "<"
  commas do
    unless (← attempt (do discard name; discard r.dataType)).isSome do discard r.dataType
  unless ← symbol? ">" do symbol ">>"

/-- Types that take a length of characters. -/
def characterTypes : List String := ["VARCHAR", "NVARCHAR"]

/-- Types that take a precision. -/
def preciseTypes : List String := [
  "FLOAT", "CLOB", "BINARY", "VARBINARY", "BLOB", "BYTES", "DATETIME", "STRING"]

/-- Types that take nothing. -/
def plainTypes : List String := [
  "BOOLEAN", "BOOL", "REAL", "FLOAT4", "FLOAT8", "FLOAT32", "FLOAT64", "INT16", "INT32", "INT64",
  "INT128", "INT256", "UINT8", "UINT16", "UINT32", "UINT64", "UINT128", "UINT256", "UUID", "DATE",
  "DATE32", "TIMESTAMPTZ", "TIMETZ", "JSON", "JSONB", "REGCLASS", "TEXT", "TINYTEXT",
  "MEDIUMTEXT", "LONGTEXT", "TINYBLOB", "MEDIUMBLOB", "LONGBLOB", "BYTEA", "TRIGGER"]

/-- Whole numbers of some width, perhaps without a sign. -/
def integerTypes : List String := [
  "TINYINT", "INT2", "SMALLINT", "MEDIUMINT", "INT", "INT4", "INT8", "INTEGER", "BIGINT"]

/-- Exact numbers. -/
def exactTypes : List String := ["NUMERIC", "DECIMAL", "DEC", "BIGNUMERIC", "BIGDECIMAL"]

/-- The rest of a built-in type after its first word, or a type of the user's own. -/
def typeAfter (r : Rules) (keyword : String) : Grammar TypeKind := do
  if plainTypes.contains keyword then
    discard next
    return .builtIn
  else if integerTypes.contains keyword then
    discard next
    precision?
    optional "UNSIGNED"
    return .builtIn
  else if preciseTypes.contains keyword then
    discard next
    precision?
    return .builtIn
  else if exactTypes.contains keyword then
    discard next
    precisionAndScale?
    return .builtIn
  else if characterTypes.contains keyword then
    discard next
    characterLength?
    return .builtIn
  else match keyword with
    | "CHARACTER" | "CHAR" => do
        discard next
        if ← keyword? "VARYING" then characterLength?
        else if ← keywords? ["LARGE", "OBJECT"] then precision?
        else characterLength?
        return .builtIn
    | "BIT" => do
        discard next
        optional "VARYING"
        precision?
        return .builtIn
    | "DOUBLE" => do
        discard next
        optional "PRECISION"
        return .builtIn
    | "TIMESTAMP" | "TIME" => do
        discard next
        precision?
        timeZone?
        return .builtIn
    | "DATETIME64" | "FIXEDSTRING" => do
        discard next
        symbol "("
        literalNumber
        if ← symbol? "," then quotedText
        symbol ")"
        return .builtIn
    | "INTERVAL" => do
        discard next
        return .interval
    | "ENUM" | "ENUM8" | "ENUM16" | "SET" => do
        discard next
        textList
        return .builtIn
    | "ARRAY" | "STRUCT" => do
        discard next
        angleFields r
        return .builtIn
    | "NULLABLE" | "LOWCARDINALITY" => do
        discard next
        discard (parens r.dataType)
        return .builtIn
    | "MAP" => do
        discard next
        symbol "("
        discard r.dataType
        symbol ","
        discard r.dataType
        symbol ")"
        return .builtIn
    | "UNION" | "NESTED" => do
        discard next
        discard <| parens <| commaSeparated do
          discard name
          discard r.dataType
        return .builtIn
    | "TUPLE" => do
        discard next
        discard <| parens <| commaSeparated do
          unless (← attempt (do discard name; discard r.dataType)).isSome do discard r.dataType
        return .builtIn
    | _ => do
        objectName
        typeModifiers?
        return .named

/-- A data type with the dimensions of an array of it. -/
def typeBody (r : Rules) : Grammar TypeKind := do
  let kind ← match ← peek with
    | some (.word _ _ keyword) => typeAfter r keyword
    | _ => fail
  let isArray ← iterate (fun _ => do
    if ← symbol? "[" then
      discard (attempt literalNumber)
      symbol "]"
      return some true
    else return none) false
  return if isArray then .builtIn else kind

end TraceAudit.Sql.Grammar
