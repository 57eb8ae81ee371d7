import TraceAudit.Sql.Grammar.Basic
import TraceAudit.Sql.Keyword

/-!
# Names

Names of tables and columns, and the aliases given to them. A keyword that starts the next clause
is no alias unless `AS` announces it.
-/

namespace TraceAudit.Sql.Grammar

/-- Keywords that are no alias of a table by themselves. -/
def reservedForTables : List String := [
  "WITH", "EXPLAIN", "ANALYZE", "SELECT", "WHERE", "GROUP", "SORT", "HAVING", "ORDER", "PIVOT",
  "UNPIVOT", "TOP", "LATERAL", "VIEW", "LIMIT", "OFFSET", "FETCH", "UNION", "EXCEPT", "INTERSECT",
  "MINUS", "ON", "JOIN", "INNER", "CROSS", "FULL", "LEFT", "RIGHT", "NATURAL", "USING", "CLUSTER",
  "DISTRIBUTE", "GLOBAL", "ANTI", "SEMI", "OUTER", "SET", "QUALIFY", "WINDOW", "END", "FOR",
  "PARTITION", "PREWHERE", "SETTINGS", "FORMAT", "START", "CONNECT", "MATCH_RECOGNIZE",
  "ASOF", "MATCH_CONDITION", "SAMPLE"]

/-- Keywords that are no alias of a column by themselves. -/
def reservedForColumns : List String := [
  "WITH", "EXPLAIN", "ANALYZE", "SELECT", "WHERE", "GROUP", "SORT", "HAVING", "ORDER", "TOP",
  "LATERAL", "VIEW", "LIMIT", "OFFSET", "FETCH", "UNION", "EXCEPT", "INTERSECT", "MINUS",
  "CLUSTER", "DISTRIBUTE", "FROM", "INTO", "END"]

/-- One name. -/
def name : Grammar String := do
  match ← next with
  | .word text _ _ => return text
  | .text .single content => return content
  | .text .double content => return content
  | _ => fail

/-- A name with its qualifiers. -/
def qualifiedName : Grammar (List String) := do
  let first ← name
  let found ← iterate (fun found => do
    if ← symbol? "." then return some ((← name) :: found) else return none) [first]
  return found.reverse

/-- A name with its qualifiers, of which nothing is kept. -/
def objectName : Grammar Unit := discard qualifiedName

/-- Names between parentheses. -/
def nameList : Grammar Unit := parens (commas name)

/-- Names between parentheses, if there are some. -/
def nameList? : Grammar Unit := do
  if ← peekSymbol "(" then nameList

/-- An alias, if there is one. -/
def alias? (reserved : List String) : Grammar Bool := do
  let announced ← keyword? "AS"
  match ← peek with
  | some (.word _ _ keyword) =>
      if announced || !reserved.contains keyword then
        discard next
        return true
      else return false
  | some (.text .single _) => discard next; return true
  | some (.text .double _) => discard next; return true
  | _ => if announced then fail else return false

/-- The columns named in the alias of a table, each perhaps with its type. -/
def aliasColumns (r : Rules) : Grammar Unit := do
  if ← symbol? "(" then
    commas do
      discard name
      discard (attempt r.dataType)
    symbol ")"

/-- The alias of a table, if there is one. -/
def tableAlias? (r : Rules) : Grammar Bool := do
  let found ← alias? reservedForTables
  if found then aliasColumns r
  return found

/-- A text literal where no other expression may stand, or a word that is no keyword. -/
def literalText : Grammar Unit := do
  match ← next with
  | .word _ _ keyword => if keywordTable.contains keyword then fail
  | .text .single _ => return
  | .text .double _ => return
  | .text .escaped _ => return
  | .text .unicode _ => return
  | _ => fail

/-- Digits where no other expression may stand. -/
def literalNumber : Grammar Unit := do
  match ← next with
  | .number text => if text.toList.all Char.isDigit then return else fail
  | _ => fail

/-- A text between quotes. -/
def quotedText : Grammar Unit := do
  match ← next with
  | .text .single _ => return
  | .text .double _ => return
  | _ => fail

/-- A literal or a placeholder. -/
def value : Grammar Value := do
  match ← next with
  | .word _ _ "TRUE" => return .bool true
  | .word _ _ "FALSE" => return .bool false
  | .word _ _ "NULL" => return .null
  | .word text (some '"') _ => return .text .double text
  | .number text => return .number text
  | .text quoting content => return .text quoting content
  | .placeholder text => return .placeholder text
  | .symbol s =>
      if s == ":" || s == "@" then
        match ← next with
        | .word text _ _ => return .placeholder (s ++ text)
        | .number text => return .placeholder (s ++ text)
        | _ => fail
      else fail
  | _ => fail

/-- A number or a placeholder for one. -/
def numberValue : Grammar Unit := do
  match ← value with
  | .number _ => return
  | .placeholder _ => return
  | _ => fail

/-- A number with or without a sign. -/
def signedNumber : Grammar Unit := do
  unless ← symbol? "+" do discard (symbol? "-")
  numberValue

/-- A text of one byte. -/
def literalByte : Grammar Unit := do
  match ← next with
  | .word text _ keyword =>
      if text.utf8ByteSize != 1 || keywordTable.contains keyword then fail
  | .text quoting content =>
      unless [Quoting.single, .double, .escaped, .unicode].contains quoting &&
          content.utf8ByteSize == 1 do fail
  | _ => fail

/-- What happens to objects that depend on one that goes. -/
def cascade? : Grammar Unit := optionalOf ["CASCADE", "RESTRICT"]

/-- The cluster on which a statement takes effect, if it is named. -/
def onCluster? : Grammar Unit := do
  if ← keywords? ["ON", "CLUSTER"] then discard name

/-- The condition that an object exists. -/
def ifExists : Grammar Unit := discard (keywords? ["IF", "EXISTS"])

/-- The condition that an object does not exist yet. -/
def ifNotExists : Grammar Unit := discard (keywords? ["IF", "NOT", "EXISTS"])

/-- A setting with its value. -/
def option (r : Rules) : Grammar Unit := do
  discard name
  symbol "="
  discard (r.expr 0)

/-- Settings between parentheses, perhaps none. -/
def options (r : Rules) : Grammar Unit := do
  symbol "("
  unless ← symbol? ")" do
    commas (option r)
    symbol ")"

end TraceAudit.Sql.Grammar
