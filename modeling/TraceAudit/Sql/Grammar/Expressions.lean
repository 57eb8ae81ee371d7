import TraceAudit.Sql.Grammar.Types

/-!
# Expressions

Operators are read by their binding strength: an operand is followed by operators as long as they
bind tighter than the level at which the expression was begun.
-/

namespace TraceAudit.Sql.Grammar

/-! ## Binding strength -/

/-- The strength of `OR`. -/
def orStrength : Nat := 5
/-- The strength of `AND`. -/
def andStrength : Nat := 10
/-- The strength of a leading `NOT`. -/
def notStrength : Nat := 15
/-- The strength of operators on documents. -/
def documentStrength : Nat := 16
/-- The strength of `IS`. -/
def isStrength : Nat := 17
/-- The strength of pattern matches. -/
def likeStrength : Nat := 19
/-- The strength of comparisons, and of tests for ranges and lists. -/
def compareStrength : Nat := 20
/-- The strength of sums. -/
def sumStrength : Nat := 30
/-- The strength of products. -/
def productStrength : Nat := 40

/-- The strength of an operator that is a symbol; 0 if it is none. -/
def symbolStrength (s : String) : Nat :=
  if ["=", "<", "<=", "<>", "!=", ">", ">=", "==", "~", "~*", "!~", "!~*", "~~", "~~*", "!~~",
      "!~~*", "<=>"].contains s then compareStrength
  else if s == "|" then 21
  else if ["^", "#", ">>", "<<"].contains s then 22
  else if s == "&" then 23
  else if ["+", "-"].contains s then sumStrength
  else if ["*", "/", "//", "%", "||"].contains s then productStrength
  else if ["::", "!", "[", "&&", "^@"].contains s then 50
  else if ["->", "->>", "#>", "#>>", "@>", "<@", "#-", "@?", "@@"].contains s then documentStrength
  else 0

/-- The strength of a test that a keyword starts, which may follow a `NOT`. -/
def testStrength (keyword : String) : Nat :=
  if ["IN", "BETWEEN"].contains keyword then compareStrength
  else if ["LIKE", "ILIKE", "RLIKE", "REGEXP", "SIMILAR"].contains keyword then likeStrength
  else 0

/-- The strength of the operator at the start of some tokens; 0 if there is none. -/
def strength : List Token → Nat
  | .symbol s :: _ => symbolStrength s
  | .word _ _ "OR" :: _ => orStrength
  | .word _ _ "AND" :: _ => andStrength
  | .word _ _ "XOR" :: _ => 24
  | .word _ _ "AT" :: .word _ _ "TIME" :: .word _ _ "ZONE" :: _ => 41
  | .word _ _ "NOT" :: .word _ _ k :: _ => testStrength k
  | .word _ _ "IS" :: _ => isStrength
  | .word _ _ "OVERLAPS" :: _ => compareStrength
  | .word _ _ "OPERATOR" :: _ => compareStrength
  | .word _ _ "DIV" :: _ => productStrength
  | .word _ _ k :: _ => testStrength k
  | _ => 0

/-! ## Calls -/

/-- Whether missing values count, if a call says so. -/
def missingValues? : Grammar Unit := do
  match ← oneOf? ["RESPECT", "IGNORE"] with
  | some _ => keyword "NULLS"
  | none => return

/-- An expression with its place in an order. -/
def orderItem (r : Rules) : Grammar Unit := do
  discard (r.expr 0)
  optionalOf ["ASC", "DESC"]
  if ← keyword? "NULLS" then discard (oneOf ["FIRST", "LAST"])
  if ← keywords? ["WITH", "FILL"] then
    whenKeyword "FROM" (discard (r.expr 0))
    whenKeyword "TO" (discard (r.expr 0))
    whenKeyword "STEP" (discard (r.expr 0))

/-- The order of the rows that a call or a query sees, if it is given. -/
def orderBy? (r : Rules) : Grammar Unit :=
  whenKeywords ["ORDER", "BY"] (commas (orderItem r))

/-- All columns, qualified or not, if a star stands for them. -/
def star? : Grammar Bool := do
  let qualified : Grammar Unit := do
    discard name
    symbol "."
    repeatWhile do
      if ← symbol? "*" then return false
      else
        discard name
        symbol "."
        return true
  if ← symbol? "*" then return true
  match ← peek with
  | some (.word _ _ _) => return (← attempt qualified).isSome
  | some (.text .single _) => return (← attempt qualified).isSome
  | _ => return false

/-- One argument of a call, named or not. -/
def argument (r : Rules) : Grammar Unit := do
  match ← get with
  | .word _ _ _ :: .symbol s :: rest =>
      if s == "=>" || s == ":=" then set rest
  | _ => pure ()
  unless ← star? do discard (r.expr 0)

/-- The arguments of a call after its opening parenthesis, and the closing one. -/
def arguments (r : Rules) : Grammar Unit := do
  unless ← symbol? ")" do
    optionalOf ["ALL", "DISTINCT"]
    commas (argument r)
    missingValues?
    orderBy? r
    whenKeyword "LIMIT" (discard (r.expr 0))
    whenKeyword "HAVING" do
      discard (oneOf ["MIN", "MAX"])
      discard (r.expr 0)
    whenKeyword "SEPARATOR" (discard value)
    whenKeywords ["ON", "OVERFLOW"] do
      unless ← keyword? "ERROR" do
        keyword "TRUNCATE"
        match ← peek with
        | some (.text _ _) => discard next
        | _ => pure ()
        discard (oneOf ["WITH", "WITHOUT"])
        keyword "COUNT"
    symbol ")"

/-- A bound of a window frame. -/
def frameBound (r : Rules) : Grammar Unit := do
  unless ← keywords? ["CURRENT", "ROW"] do
    unless ← keyword? "UNBOUNDED" do
      match ← peek with
      | some (.text .single _) => discard r.operand
      | _ => discard (r.expr 0)
    discard (oneOf ["PRECEDING", "FOLLOWING"])

/-- A window after its opening parenthesis, and the closing one. -/
def windowBody (r : Rules) : Grammar Unit := do
  match ← peek with
  | some (.word _ _ k) => unless keywordTable.contains k do discard next
  | _ => pure ()
  whenKeywords ["PARTITION", "BY"] (commas (r.expr 0))
  orderBy? r
  unless ← symbol? ")" do
    discard (oneOf ["ROWS", "RANGE", "GROUPS"])
    if ← keyword? "BETWEEN" then
      frameBound r
      keyword "AND"
      frameBound r
    else frameBound r
    symbol ")"

/-- A call after the name of the function. -/
def call (r : Rules) : Grammar Unit := do
  symbol "("
  arguments r
  if ← symbol? "(" then arguments r
  whenKeywords ["WITHIN", "GROUP"] <| parens do
    keywords ["ORDER", "BY"]
    commas (orderItem r)
  if (← peekKeyword "FILTER") && isSymbol "(" (← peekAt 1) && isKeyword "WHERE" (← peekAt 2) then
    keyword "FILTER"
    symbol "("
    keyword "WHERE"
    discard (r.expr 0)
    symbol ")"
  missingValues?
  whenKeyword "OVER" do
    if ← symbol? "(" then windowBody r else discard name

/-! ## Forms with words of their own -/

/-- A case distinction after its first keyword. -/
def caseBody (r : Rules) : Grammar Unit := do
  unless ← keyword? "WHEN" do
    discard (r.expr 0)
    keyword "WHEN"
  repeatWhile do
    discard (r.expr 0)
    keyword "THEN"
    discard (r.expr 0)
    keyword? "WHEN"
  whenKeyword "ELSE" (discard (r.expr 0))
  keyword "END"

/-- A field of a point in time. -/
def timeField : Grammar Unit := do
  match ← next with
  | .word _ _ "WEEK" =>
      if ← symbol? "(" then
        discard name
        symbol ")"
  | .word _ _ _ => return
  | .text .single _ => return
  | _ => fail

/-- The units of a span of time. -/
def timeUnits : List String := [
  "YEAR", "QUARTER", "MONTH", "WEEK", "DAY", "HOUR", "MINUTE", "SECOND", "CENTURY", "DECADE",
  "DOW", "DOY", "EPOCH", "ISODOW", "ISOYEAR", "JULIAN", "MICROSECOND", "MICROSECONDS",
  "MILLENIUM", "MILLENNIUM", "MILLISECOND", "MILLISECONDS", "NANOSECOND", "NANOSECONDS",
  "TIMEZONE", "TIMEZONE_HOUR", "TIMEZONE_MINUTE"]

/-- A span of time after its first keyword. -/
def intervalBody (r : Rules) : Grammar Unit := do
  discard r.operand
  if ← peekAny timeUnits then
    if ← peekKeyword "SECOND" then
      timeField
      precisionAndScale?
    else
      timeField
      precision?
      whenKeyword "TO" do
        timeField
        precision?

/-- The type of a conversion, with its format. -/
def castBody (r : Rules) : Grammar Unit := parens do
  discard (r.expr 0)
  keyword "AS"
  discard r.dataType
  whenKeyword "FORMAT" do
    discard value
    whenKeywords ["AT", "TIME", "ZONE"] (discard value)

/-- A conversion in one of its older spellings. -/
def convertBody (r : Rules) : Grammar Unit := parens do
  discard (r.expr 0)
  if ← symbol? "," then
    discard r.dataType
    whenKeywords ["CHARACTER", "SET"] objectName
  else
    keyword "USING"
    objectName

/-- The list of texts and where to cut, of `TRIM`. -/
def trimBody (r : Rules) : Grammar Unit := parens do
  optionalOf ["BOTH", "LEADING", "TRAILING"]
  discard (r.expr 0)
  if ← keyword? "FROM" then discard (r.expr 0)
  else if ← symbol? "," then commas (r.expr 0)

/-- The parts of a text, of `SUBSTRING`. -/
def substringBody (r : Rules) : Grammar Unit := parens do
  discard (r.expr 0)
  if (← keyword? "FROM") || (← symbol? ",") then discard (r.expr 0)
  if (← keyword? "FOR") || (← symbol? ",") then discard (r.expr 0)

/-- Rounding to a unit or to places. -/
def roundBody (r : Rules) : Grammar Unit := parens do
  discard (r.expr 0)
  if ← keyword? "TO" then timeField
  else if ← symbol? "," then discard value

/-- A full-text search after its first keyword. -/
def matchBody : Grammar Unit := do
  nameList
  keyword "AGAINST"
  parens do
    discard value
    if ← keyword? "IN" then
      if ← keywords? ["NATURAL", "LANGUAGE", "MODE"] then
        discard (keywords? ["WITH", "QUERY", "EXPANSION"])
      else keywords ["BOOLEAN", "MODE"]
    else discard (keywords? ["WITH", "QUERY", "EXPANSION"])

/-- The items of an array after its opening bracket, and the closing one. -/
def arrayBody (r : Rules) : Grammar Unit := do
  unless ← symbol? "]" do
    commas (r.expr 0)
    symbol "]"

/-- A structured value after its first keyword. -/
def structBody (r : Rules) : Grammar Unit := do
  if ← peekSymbol "<" then angleFields r
  parens <| commas do
    discard (r.expr 0)
    if ← keyword? "AS" then discard name

/-- The form that a keyword announces, after the keyword; none if it announces none. -/
def keywordForm (r : Rules) (k : String) : Grammar (Option Expr) := do
  let form (g : Grammar Unit) : Grammar (Option Expr) := do g; return some .other
  match k with
  | "TRUE" => return some (.value (.bool true))
  | "FALSE" => return some (.value (.bool false))
  | "NULL" => return some (.value .null)
  | "CURRENT_CATALOG" | "CURRENT_USER" | "SESSION_USER" | "USER" => return some .other
  | "CURRENT_TIMESTAMP" | "CURRENT_TIME" | "CURRENT_DATE" | "LOCALTIME" | "LOCALTIMESTAMP" =>
      form do if ← symbol? "(" then arguments r
  | "CASE" => form (caseBody r)
  | "CONVERT" | "TRY_CONVERT" => form (convertBody r)
  | "CAST" | "TRY_CAST" | "SAFE_CAST" => form (castBody r)
  | "EXISTS" => form (discard (parens r.query))
  | "EXTRACT" => form <| parens do
      timeField
      unless ← keyword? "FROM" do symbol ","
      discard (r.expr 0)
  | "CEIL" | "FLOOR" => form (roundBody r)
  | "POSITION" => do
      unless ← peekSymbol "(" do return none
      match ← attempt (parens do
        discard (r.expr compareStrength)
        keyword "IN"
        discard (r.expr 0)) with
      | some _ => return some .other
      | none => form (call r)
  | "SUBSTRING" => form (substringBody r)
  | "OVERLAY" => form <| parens do
      discard (r.expr 0)
      keyword "PLACING"
      discard (r.expr 0)
      keyword "FROM"
      discard (r.expr 0)
      whenKeyword "FOR" (discard (r.expr 0))
  | "TRIM" => form (trimBody r)
  | "INTERVAL" => form (intervalBody r)
  | "ARRAY" => do
      if ← symbol? "[" then form (arrayBody r)
      else if ← peekSymbol "(" then form (discard (parens r.query))
      else return none
  | "PRIOR" => form (discard (r.expr sumStrength))
  | "NOT" => do
      if ← keyword? "EXISTS" then form (discard (parens r.query))
      else return some (.unary .not (← r.expr notStrength))
  | "MATCH" => form matchBody
  | "STRUCT" => form (structBody r)
  | "MAP" => do
      unless ← peekSymbol "\x7b" do return none
      form do
        symbol "\x7b"
        unless ← symbol? "\x7d" do
          commas do
            discard (r.expr 0)
            symbol ":"
            discard (r.expr 0)
          symbol "\x7d"
  | _ => return none

/-- Keywords that name no column unless they are quoted. -/
def reservedNames : List String := ["EXISTS", "INTERVAL", "STRUCT", "TRIM"]

/-! ## Operands -/

/-- Subscripts after an operand: an index or a slice between brackets. -/
def subscriptBody (r : Rules) : Grammar Unit := do
  unless ← peekSymbol ":" do discard (r.expr 0)
  if ← symbol? ":" then
    unless ← peekSymbol "]" do discard (attempt (r.expr 0))
    if ← symbol? ":" then
      unless ← peekSymbol "]" do discard (r.expr 0)
  symbol "]"

/-- A column or a call that starts with a name, after the name. -/
def named (r : Rules) (first : String) : Grammar Expr := do
  match ← peek with
  | some (.symbol ".") => do
      let path ← iterate (fun path => do
        if ← symbol? "." then
          match ← next with
          | .word text _ _ => return some (text :: path)
          | .text .single content => return some (content :: path)
          | _ => fail
        else return none) [first]
      if ← peekSymbol "(" then
        call r
        return .other
      return .column path.reverse
  | some (.symbol "(") => do
      call r
      return .other
  | some (.text quoting _) => do
      if first.startsWith "_" && [Quoting.single, .double, .hex].contains quoting then
        discard next
        return .other
      else return .column [first]
  | _ => return .column [first]

/-- A literal after the name of its type. -/
def typedLiteral (r : Rules) : Grammar Unit := do
  match ← r.dataType with
  | .interval => intervalBody r
  | .named => fail
  | .builtIn => literalText

/-- An expression in parentheses: a subquery, one expression, or several. -/
def parenthesized (r : Rules) : Grammar Expr := do
  let e ← if ← peekAny ["SELECT", "WITH"] then do
      discard r.query
      pure Expr.other
    else do
      match ← commaSeparated (r.expr 0) with
      | [e] => pure (Expr.nested e)
      | _ => pure Expr.other
  symbol ")"
  if ← symbol? "." then
    match ← next with
    | .word _ _ _ => return .other
    | _ => fail
  else return e

/-- An expression that starts with a word. -/
def wordOperand (r : Rules) : Grammar Expr := do
  match ← next with
  | .word text _ keyword =>
      let form : Grammar Expr := do
        match ← keywordForm r keyword with
        | some e => return e
        | none => named r text
      if reservedNames.contains keyword then form else orElse form (named r text)
  | _ => fail

/-- An operand without what may follow it. -/
def operandStart (r : Rules) : Grammar Expr := do
  match ← attempt (typedLiteral r) with
  | some _ => return .other
  | none =>
      match ← peek with
      | some (.word _ _ _) => wordOperand r
      | some (.symbol s) =>
          if s == "[" then
            discard next
            arrayBody r
            return .other
          else if s == "-" then
            discard next
            return .unary .minus (← r.expr productStrength)
          else if s == "+" then
            discard next
            return .unary .plus (← r.expr productStrength)
          else if s == "(" then
            discard next
            parenthesized r
          else if s == "\x7b" then
            discard next
            unless ← symbol? "\x7d" do
              commas do
                discard name
                symbol ":"
                discard (r.expr 0)
              symbol "\x7d"
            return .other
          else return .value (← value)
      | _ => return .value (← value)

/-- An operand with its collation, if it has one. -/
def operandBody (r : Rules) : Grammar Expr := do
  let e ← operandStart r
  if ← keyword? "COLLATE" then
    objectName
    return .other
  else return e

/-! ## Operators -/

/-- The operator that a symbol or keyword stands for between two operands. -/
def binaryOp? : Token → Option BinaryOp
  | .symbol s =>
      if s == "=" || s == "==" then some .equal
      else if s == "<>" || s == "!=" then some .notEqual
      else if ["::", "!", "[", "#"].contains s then none
      else if symbolStrength s == 0 then none
      else some .other
  | .word _ _ "AND" => some .and
  | .word _ _ "OR" => some .or
  | .word _ _ "XOR" => some .other
  | .word _ _ "OVERLAPS" => some .other
  | .word _ _ "DIV" => some .other
  | .word _ _ "OPERATOR" => some .other
  | _ => none

/-- Whether an operator compares, so that it may compare with each row of a query. -/
def comparesRows : Token → Bool
  | .symbol s => ["=", "==", "<>", "!=", "<", "<=", ">", ">="].contains s
  | _ => false

/-- The name of an operator between parentheses. -/
def operatorName : Grammar Unit := parens do
  discard next
  repeatWhile do
    if ← symbol? "." then
      discard next
      return true
    else return false

/-- The character that protects the wildcards of a pattern, if it is given. -/
def escape? : Grammar Unit := whenKeyword "ESCAPE" literalText

/-- What may stand between the parentheses of a list test. -/
def listBody (r : Rules) : Grammar Unit := do
  if ← peekAny ["SELECT", "WITH"] then discard r.query else commas (r.expr 0)

/-- A test that a keyword starts, perhaps after `NOT`. -/
def testBody (r : Rules) : Grammar Unit := do
  optional "NOT"
  match ← oneOf ["REGEXP", "RLIKE", "IN", "BETWEEN", "LIKE", "ILIKE", "SIMILAR"] with
  | "REGEXP" | "RLIKE" => discard (r.expr likeStrength)
  | "IN" =>
      if ← keyword? "UNNEST" then discard (parens (r.expr 0))
      else parens (listBody r)
  | "BETWEEN" =>
      discard (r.expr compareStrength)
      keyword "AND"
      discard (r.expr compareStrength)
  | "SIMILAR" =>
      keyword "TO"
      discard (r.expr likeStrength)
      escape?
  | _ =>
      optional "ANY"
      discard (r.expr likeStrength)
      escape?

/-- What an operand is tested to be, after `IS`. -/
def isBody (r : Rules) : Grammar Unit := do
  optional "NOT"
  if ← keywords? ["DISTINCT", "FROM"] then discard (r.expr 0)
  else discard (oneOf ["NULL", "TRUE", "FALSE", "UNKNOWN"])

/-- An operator and its right operand, after a left operand. -/
def infixBody (r : Rules) (left : Expr) (level : Nat) : Grammar Expr := do
  match ← peek with
  | some (.word _ _ "IS") => do
      discard next
      isBody r
      return .other
  | some (.word _ _ "AT") => do
      keywords ["AT", "TIME", "ZONE"]
      discard (r.expr level)
      return .other
  | some (.symbol "::") => do
      discard next
      discard r.dataType
      return .other
  | some (.symbol "[") => do
      discard next
      subscriptBody r
      return .other
  | some t =>
      match binaryOp? t with
      | none => do
          testBody r
          return .other
      | some op => do
          discard next
          if isKeyword "OPERATOR" (some t) then operatorName
          match ← oneOf? ["ANY", "ALL", "SOME"] with
          | some _ => do
              unless comparesRows t do fail
              let inner ← peekAt 1
              if isSymbol "(" (← peek) && (isKeyword "SELECT" inner || isKeyword "WITH" inner) then
                discard (r.expr level)
              else discard (parens (r.expr level))
              return .other
          | none => return .binary op left (← r.expr level)
  | none => fail

/-- An expression whose operators bind tighter than a level. -/
def exprBody (r : Rules) (level : Nat) : Grammar Expr := nested do
  let e ← operandBody r
  iterate (fun e => do
    let s := strength (← get)
    if s ≤ level then return none
    else return some (← infixBody r e s)) e

end TraceAudit.Sql.Grammar
