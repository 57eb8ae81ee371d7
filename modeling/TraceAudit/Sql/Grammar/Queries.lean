import TraceAudit.Sql.Grammar.Expressions

/-!
# Queries

Selections with their clauses, set operations, common tables, and the tables that a query reads.
-/

namespace TraceAudit.Sql.Grammar

/-! ## Tables -/

/-- What a pivot turns around, and the alias of the result. -/
def pivot? (r : Rules) : Grammar Unit :=
  repeatWhile do
    match ← oneOf? ["PIVOT", "UNPIVOT"] with
    | some _ =>
        group
        discard (tableAlias? r)
        return true
    | none => return false

/-- A query that stands for a table, after its opening parenthesis. -/
def derivedTable (r : Rules) : Grammar Unit := do
  discard r.query
  symbol ")"
  discard (tableAlias? r)

/-- The rows that a list of values writes out. -/
def valueRows (r : Rules) (allowEmpty : Bool) : Grammar Unit :=
  commas do
    optional "ROW"
    symbol "("
    if allowEmpty && (← symbol? ")") then pure ()
    else
      commas (r.expr 0)
      symbol ")"

/-- A table by its name, with arguments, alias and hints. -/
def namedTable (r : Rules) : Grammar Unit := do
  objectName
  whenKeyword "PARTITION" nameList
  if ← symbol? "(" then
    unless ← symbol? ")" do
      commas (argument r)
      symbol ")"
  discard (keywords? ["WITH", "ORDINALITY"])
  discard (tableAlias? r)
  if isKeyword "WITH" (← peek) && isSymbol "(" (← peekAt 1) then
    keyword "WITH"
    parens (commas (r.expr 0))
  pivot? r
  whenKeyword "MATCH_RECOGNIZE" do
    group
    discard (tableAlias? r)

/-- Arrays that stand for a table, after the keyword. -/
def unnestBody (r : Rules) : Grammar Unit := do
  parens (commas (r.expr 0))
  discard (keywords? ["WITH", "ORDINALITY"])
  discard (tableAlias? r)
  whenKeywords ["WITH", "OFFSET"] (discard (alias? reservedForColumns))

/-- One table, without what is joined to it; tells whether it is a join in parentheses. -/
def tableFactor (r : Rules) : Grammar Bool := do
  if ← keyword? "LATERAL" then
    if ← symbol? "(" then derivedTable r
    else
      objectName
      symbol "("
      unless ← symbol? ")" do
        commas (argument r)
        symbol ")"
      discard (tableAlias? r)
    return false
  else if ← keyword? "TABLE" then
    discard (parens (r.expr 0))
    discard (tableAlias? r)
    return false
  else if ← symbol? "(" then
    match ← attempt (derivedTable r) with
    | some _ =>
        pivot? r
        return false
    | none =>
        let joined ← r.tables
        symbol ")"
        discard (tableAlias? r)
        return joined
  else if isKeyword "VALUES" (← peek) && isSymbol "(" (← peekAt 1) then
    keyword "VALUES"
    valueRows r false
    discard (tableAlias? r)
    return false
  else if ← keyword? "UNNEST" then
    unnestBody r
    return false
  else if (← peekAny ["JSON_TABLE", "OPENJSON"]) && isSymbol "(" (← peekAt 1) then
    discard next
    group
    if ← keyword? "WITH" then group
    discard (tableAlias? r)
    return false
  else
    namedTable r
    return false

/-- What two joined tables have in common. -/
def joinCondition (r : Rules) : Grammar Unit := do
  if ← keyword? "ON" then discard (r.expr 0)
  else whenKeyword "USING" nameList

/-- One join after a table, if there is one. -/
def join? (r : Rules) : Grammar Bool := do
  optional "GLOBAL"
  if ← keyword? "CROSS" then
    discard (oneOf ["JOIN", "APPLY"])
    discard (tableFactor r)
    return true
  else if ← keyword? "OUTER" then
    keyword "APPLY"
    discard (tableFactor r)
    return true
  else if ← keyword? "ASOF" then
    keyword "JOIN"
    discard (tableFactor r)
    keyword "MATCH_CONDITION"
    discard (parens (r.expr 0))
    joinCondition r
    return true
  else
    let natural ← keyword? "NATURAL"
    match ← oneOf? ["INNER", "JOIN", "LEFT", "RIGHT", "ANTI", "SEMI", "FULL"] with
    | none => if natural then fail else return false
    | some k =>
        match k with
        | "JOIN" => pure ()
        | "LEFT" | "RIGHT" =>
            optionalOf ["OUTER", "SEMI", "ANTI"]
            keyword "JOIN"
        | "FULL" =>
            optional "OUTER"
            keyword "JOIN"
        | _ => keyword "JOIN"
        discard (tableFactor r)
        unless natural do joinCondition r
        return true

/-- A table and what is joined to it; tells whether it is a join. -/
def tablesBody (r : Rules) : Grammar Bool := do
  let inner ← tableFactor r
  let joined ← iterate (fun _ => do
    if ← join? r then return some true else return none) false
  return inner || joined

/-- Tables with commas between them. -/
def tableList (r : Rules) : Grammar Unit := commas r.tables

/-! ## Selections -/

/-- Columns left out, replaced or renamed where a star stands for all. -/
def starChanges? (r : Rules) : Grammar Unit := do
  whenKeyword "ILIKE" quotedText
  whenKeyword "EXCLUDE" do
    if ← peekSymbol "(" then nameList else discard name
  whenKeyword "EXCEPT" do
    if ← peekSymbol "(" then nameList else discard name
  whenKeyword "REPLACE" <| parens <| commas do
    discard (r.expr 0)
    optional "AS"
    discard name
  whenKeyword "RENAME" do
    if ← peekSymbol "(" then
      parens <| commas do
        discard name
        keyword "AS"
        discard name
    else
      discard name
      keyword "AS"
      discard name

/-- One column of a selection. -/
def selectItem (r : Rules) : Grammar Unit := do
  if ← star? then starChanges? r
  else
    let bare ← peekKeyword "FROM"
    match bare, ← r.expr 0 with
    | true, .column [_] => fail
    | _, _ => discard (alias? reservedForColumns)

/-- The columns that a change gives back, if it gives some. -/
def returning? (r : Rules) : Grammar Unit :=
  whenKeyword "RETURNING" (commas (selectItem r))

/-- Whether equal rows count once. -/
def allOrDistinct (r : Rules) : Grammar Unit := do
  let all ← keyword? "ALL"
  if ← keyword? "DISTINCT" then
    if all then fail
    if ← keyword? "ON" then
      symbol "("
      unless ← symbol? ")" do
        commas (r.expr 0)
        symbol ")"

/-- How many rows come first. -/
def top (r : Rules) : Grammar Unit := do
  if ← symbol? "(" then
    discard (r.expr 0)
    symbol ")"
  else
    match ← next with
    | .number _ => pure ()
    | _ => fail
  optional "PERCENT"
  discard (keywords? ["WITH", "TIES"])

/-- One group of rows. -/
def groupItem (r : Rules) : Grammar Unit := do
  let sets : Grammar Unit := parens <| commas do
    if ← symbol? "(" then
      unless ← symbol? ")" do
        commas (r.expr 0)
        symbol ")"
    else discard (r.expr 0)
  if ← keywords? ["GROUPING", "SETS"] then sets
  else if ← keyword? "CUBE" then sets
  else if ← keyword? "ROLLUP" then sets
  else
    match ← get with
    | .symbol "(" :: .symbol ")" :: rest => set rest
    | _ => discard (r.expr 0)

/-- How rows are grouped. -/
def groupBy? (r : Rules) : Grammar Unit := do
  if ← keywords? ["GROUP", "BY"] then
    unless ← keyword? "ALL" do commas (groupItem r)
    repeatWhile do
      if ← keyword? "WITH" then
        discard (oneOf ["ROLLUP", "CUBE", "TOTALS"])
        return true
      else return false

/-- Windows by name. -/
def windows (r : Rules) : Grammar Unit := commas do
  discard name
  keyword "AS"
  if ← symbol? "(" then windowBody r else discard name

/-- A selection. -/
def select (r : Rules) : Grammar Unit := do
  keyword "SELECT"
  allOrDistinct r
  whenKeyword "TOP" (top r)
  commas (selectItem r)
  whenKeyword "INTO" do
    optionalOf ["TEMPORARY", "TEMP"]
    optional "UNLOGGED"
    optional "TABLE"
    objectName
  whenKeyword "FROM" (tableList r)
  repeatWhile do
    if ← keywords? ["LATERAL", "VIEW"] then
      optional "OUTER"
      discard (r.expr 0)
      objectName
      commas (alias? ["WHERE", "GROUP", "CLUSTER", "HAVING", "LATERAL"])
      return true
    else return false
  whenKeyword "PREWHERE" (discard (r.expr 0))
  whenKeyword "WHERE" (discard (r.expr 0))
  groupBy? r
  whenKeywords ["CLUSTER", "BY"] (commas (r.expr 0))
  whenKeywords ["DISTRIBUTE", "BY"] (commas (r.expr 0))
  whenKeywords ["SORT", "BY"] (commas (r.expr 0))
  whenKeyword "HAVING" (discard (r.expr 0))
  if ← keyword? "WINDOW" then
    windows r
    whenKeyword "QUALIFY" (discard (r.expr 0))
  else if ← keyword? "QUALIFY" then
    discard (r.expr 0)
    whenKeyword "WINDOW" (windows r)
  if ← keywords? ["START", "WITH"] then
    discard (r.expr 0)
    keywords ["CONNECT", "BY"]
    optional "NOCYCLE"
    commas (r.expr 0)
  else if ← keywords? ["CONNECT", "BY"] then
    optional "NOCYCLE"
    commas (r.expr 0)
    whenKeywords ["START", "WITH"] (discard (r.expr 0))

/-! ## Set operations -/

/-- All rows of a table, after the keyword. Where the name has no qualifier, the two tokens after it
are passed over. -/
def wholeTable : Grammar Unit := do
  match ← get with
  | .word _ _ _ :: .symbol "." :: rest =>
      match rest with
      | .word _ _ _ :: rest => set rest
      | _ => fail
  | .word _ _ _ :: rest => set (rest.drop 2)
  | _ => fail

/-- The first part of a query. -/
def queryStart (r : Rules) : Grammar QueryBody := do
  if ← peekKeyword "SELECT" then
    select r
    return .rows
  else if ← symbol? "(" then
    let body ← r.query
    symbol ")"
    return body
  else if ← keyword? "VALUES" then
    valueRows r false
    return .rows
  else if ← keyword? "TABLE" then
    wholeTable
    return .rows
  else fail

/-- How tightly the set operator at the start of some tokens binds; 0 if there is none. -/
def setStrength : Option Token → Nat
  | some (.word _ _ "UNION") => 10
  | some (.word _ _ "EXCEPT") => 10
  | some (.word _ _ "INTERSECT") => 20
  | _ => 0

/-- Which rows a set operation keeps. -/
def setQuantifier : Grammar Unit := do
  unless ← keywords? ["DISTINCT", "BY", "NAME"] do
    unless ← keywords? ["BY", "NAME"] do
      if ← keyword? "ALL" then discard (keywords? ["BY", "NAME"])
      else optional "DISTINCT"

/-- A query without order and limits, whose set operators bind tighter than a level. -/
def queryBodyAt (r : Rules) (level : Nat) : Grammar QueryBody := do
  let first ← queryStart r
  iterate (fun _ => do
    let s := setStrength (← peek)
    if s ≤ level then return none
    else
      discard next
      setQuantifier
      discard (r.queryBody s)
      return some .rows) first

/-! ## Whole queries -/

/-- A common table. -/
def commonTable (r : Rules) : Grammar Unit := do
  discard name
  unless ← keyword? "AS" do
    aliasColumns r
    keyword "AS"
  discard (parens r.query)
  whenKeyword "FROM" (discard name)

/-- How many rows come back, at most. -/
def fetch : Grammar Unit := do
  discard (oneOf ["FIRST", "NEXT"])
  if (← oneOf? ["ROW", "ROWS"]).isNone then
    discard value
    optional "PERCENT"
    discard (oneOf ["ROW", "ROWS"])
  unless ← keyword? "ONLY" do keywords ["WITH", "TIES"]

/-- How many rows are skipped. -/
def offset (r : Rules) : Grammar Unit := do
  discard (r.expr 0)
  optionalOf ["ROW", "ROWS"]

/-- How many rows there are at most; tells whether a number is given. -/
def limit (r : Rules) : Grammar Bool := do
  if ← keyword? "ALL" then return false
  discard (r.expr 0)
  return true

/-- Limits and offsets, in either order. -/
def limits? (r : Rules) : Grammar Unit := do
  let round (state : Bool × Bool) : Grammar (Bool × Bool) := do
    let (limited, skipped) := state
    let limited ← if limited then pure true
      else if ← keyword? "LIMIT" then limit r
      else pure false
    let skipped ← if skipped then pure true
      else if ← keyword? "OFFSET" then do offset r; pure true
      else pure false
    if limited && !skipped then
      if ← symbol? "," then
        discard (r.expr 0)
        return (true, true)
    return (limited, skipped)
  discard (round (← round (false, false)))

/-- A lock or a document form of the rows, after `FOR`. -/
def forBody : Grammar Bool := do
  if ← keyword? "BROWSE" then return false
  else if ← keyword? "XML" then
    discard (oneOf ["RAW", "AUTO", "EXPLICIT", "PATH"])
    if ← symbol? "(" then
      quotedText
      symbol ")"
    return false
  else if ← keyword? "JSON" then
    discard (oneOf ["AUTO", "PATH"])
    return false
  else
    discard (oneOf ["UPDATE", "SHARE"])
    whenKeyword "OF" objectName
    unless ← keyword? "NOWAIT" do discard (keywords? ["SKIP", "LOCKED"])
    return true

/-- The clauses after the parts of a query. -/
def queryTail (r : Rules) : Grammar Unit := do
  if ← keywords? ["ORDER", "BY"] then
    commas (orderItem r)
    whenKeyword "INTERPOLATE" do
      if ← peekSymbol "(" then group
  limits? r
  whenKeyword "BY" (commas (r.expr 0))
  whenKeyword "SETTINGS" <| commas do
    discard name
    symbol "="
    discard value
  whenKeyword "FETCH" fetch
  repeatWhile do
    if ← keyword? "FOR" then forBody else return false
  whenKeyword "FORMAT" do
    unless ← keyword? "NULL" do discard name

end TraceAudit.Sql.Grammar
