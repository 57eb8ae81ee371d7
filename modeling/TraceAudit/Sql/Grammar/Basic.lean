import TraceAudit.Sql.Token
import TraceAudit.Sql.Statement

/-!
# Reading a grammar

A grammar takes tokens from the front of a list. It knows how many nested levels it may still
enter; a text that needs more is refused as a whole, and is never read in another way instead.
Rules that refer to each other go through `Rules`, a record of the rules one level down, so that
every rule is a plain definition.
-/

namespace TraceAudit.Sql

/-- Why a grammar does not match. -/
inductive Mismatch where
  | unexpected
  | tooDeep
  deriving DecidableEq, Repr

abbrev Grammar := ReaderT Nat (StateT (List Token) (Except Mismatch))

namespace Grammar

variable {α : Type}

/-- Matches nothing. -/
def fail : Grammar α := throw .unexpected

/-- The next token, left in place. -/
def peek : Grammar (Option Token) := do return (← get).head?

/-- The token `n` places ahead, left in place. -/
def peekAt (n : Nat) : Grammar (Option Token) := do return (← get)[n]?

/-- Takes the next token. -/
def next : Grammar Token := do
  match ← get with
  | t :: rest => set rest; return t
  | [] => fail

/-- Whether all tokens are taken. -/
def atEnd : Grammar Bool := do return (← get).isEmpty

/-- Whether a token is a keyword. -/
def isKeyword (k : String) : Option Token → Bool
  | some (.word _ _ keyword) => keyword == k
  | _ => false

/-- Whether a token is a symbol. -/
def isSymbol (s : String) : Option Token → Bool
  | some (.symbol spelling) => spelling == s
  | _ => false

/-- Whether the next token is a keyword. -/
def peekKeyword (k : String) : Grammar Bool := do return isKeyword k (← peek)

/-- Whether the next token is a symbol. -/
def peekSymbol (s : String) : Grammar Bool := do return isSymbol s (← peek)

/-- Whether the next token is one of some keywords. -/
def peekAny (ks : List String) : Grammar Bool := do
  let t ← peek
  return ks.any fun k => isKeyword k t

/-- Takes a keyword if it is next. -/
def keyword? (k : String) : Grammar Bool := do
  match ← get with
  | .word _ _ keyword :: rest => if keyword == k then set rest; return true else return false
  | _ => return false

/-- Takes a keyword, which must be next. -/
def keyword (k : String) : Grammar Unit := do
  unless ← keyword? k do fail

/-- Whether a list of tokens starts with a list of keywords, and what follows them. -/
def afterKeywords : List String → List Token → Option (List Token)
  | [], ts => some ts
  | k :: ks, .word _ _ keyword :: ts => if keyword == k then afterKeywords ks ts else none
  | _ :: _, _ => none

/-- Takes several keywords if all of them are next. -/
def keywords? (ks : List String) : Grammar Bool := do
  match afterKeywords ks (← get) with
  | some rest => set rest; return true
  | none => return false

/-- Takes several keywords, which must be next. -/
def keywords (ks : List String) : Grammar Unit := do
  unless ← keywords? ks do fail

/-- Takes one of some keywords if one is next. -/
def oneOf? (ks : List String) : Grammar (Option String) := do
  match ← get with
  | .word _ _ keyword :: rest =>
      if ks.contains keyword then set rest; return some keyword else return none
  | _ => return none

/-- Takes one of some keywords, one of which must be next. -/
def oneOf (ks : List String) : Grammar String := do
  match ← oneOf? ks with
  | some k => return k
  | none => fail

/-- Takes a symbol if it is next. -/
def symbol? (s : String) : Grammar Bool := do
  match ← get with
  | .symbol spelling :: rest => if spelling == s then set rest; return true else return false
  | _ => return false

/-- Takes a symbol, which must be next. -/
def symbol (s : String) : Grammar Unit := do
  unless ← symbol? s do fail

/-- What a grammar matches, or nothing if it does not match, and then no token is taken. -/
def attempt (g : Grammar α) : Grammar (Option α) := fun depth tokens =>
  match g depth tokens with
  | .ok (a, rest) => .ok (some a, rest)
  | .error .unexpected => .ok (none, tokens)
  | .error .tooDeep => .error .tooDeep

/-- What the first grammar matches, else what the second does; a mismatch of both is that of the
first. -/
def orElse (g h : Grammar α) : Grammar α := fun depth tokens =>
  match g depth tokens with
  | .ok r => .ok r
  | .error e =>
      match h depth tokens with
      | .ok r => .ok r
      | .error _ => .error e

/-- A grammar one nested level down. -/
def nested (g : Grammar α) : Grammar α := fun depth tokens =>
  match depth with
  | 0 => .error .tooDeep
  | depth + 1 => g depth tokens

/-- Repeats a step while it says so, at most once for each token left. -/
def repeatSteps (step : Grammar Bool) : Nat → Grammar Unit
  | 0 => return
  | steps + 1 => do if ← step then repeatSteps step steps

/-- Repeats a step while it says so. A step that says so takes at least one token. -/
def repeatWhile (step : Grammar Bool) : Grammar Unit := do
  repeatSteps step ((← get).length + 1)

/-- Carries a value through steps until one gives none, at most once for each token left. -/
def iterateSteps (step : α → Grammar (Option α)) : Nat → α → Grammar α
  | 0, a => return a
  | steps + 1, a => do
      match ← step a with
      | some b => iterateSteps step steps b
      | none => return a

/-- Carries a value through steps until one gives none. A step that gives one takes at least one
token. -/
def iterate (step : α → Grammar (Option α)) (a : α) : Grammar α := do
  iterateSteps step ((← get).length + 1) a

/-- One or more, with commas between them. -/
def commaSeparated (g : Grammar α) : Grammar (List α) := do
  let first ← g
  let found ← iterate (fun found => do
    if ← symbol? "," then return some ((← g) :: found) else return none) [first]
  return found.reverse

/-- One or more, with commas between them, of which nothing is kept. -/
def commas (g : Grammar α) : Grammar Unit := do
  discard (commaSeparated g)

/-- A grammar between parentheses. -/
def parens (g : Grammar α) : Grammar α := do
  symbol "("
  let a ← g
  symbol ")"
  return a

/-- A grammar if a keyword announces it. -/
def whenKeyword (k : String) (g : Grammar Unit) : Grammar Unit := do
  if ← keyword? k then g

/-- A grammar if several keywords announce it. -/
def whenKeywords (ks : List String) (g : Grammar Unit) : Grammar Unit := do
  if ← keywords? ks then g

/-- Takes a keyword if it is next, and it does not matter whether it is. -/
def optional (k : String) : Grammar Unit := discard (keyword? k)

/-- Takes one of some keywords if one is next, and it does not matter whether one is. -/
def optionalOf (ks : List String) : Grammar Unit := discard (oneOf? ks)

/-- The tokens after the closing parenthesis of a group that is open `depth + 1` times. -/
def afterGroup : Nat → List Token → Option (List Token)
  | _, [] => none
  | depth, .symbol "(" :: ts => afterGroup (depth + 1) ts
  | 0, .symbol ")" :: ts => some ts
  | depth + 1, .symbol ")" :: ts => afterGroup depth ts
  | depth, _ :: ts => afterGroup depth ts

/-- Any tokens between parentheses that match. -/
def group : Grammar Unit := do
  symbol "("
  match afterGroup 0 (← get) with
  | some rest => set rest
  | none => fail

end Grammar

/-- What a data type is, as far as an expression that starts with it cares. -/
inductive TypeKind where
  | builtIn
  | interval
  | named
  deriving DecidableEq, Repr

/-- The rules that refer to each other. -/
structure Rules where
  /-- An expression whose operators bind tighter than a level. -/
  expr : Nat → Grammar Expr
  /-- An expression without an operator after it. -/
  operand : Grammar Expr
  dataType : Grammar TypeKind
  query : Grammar QueryBody
  /-- A query without order and limits, whose set operators bind tighter than a level. -/
  queryBody : Nat → Grammar QueryBody
  /-- A table and what is joined to it; tells whether it is a join. -/
  tables : Grammar Bool
  statement : Grammar Statement

end TraceAudit.Sql
