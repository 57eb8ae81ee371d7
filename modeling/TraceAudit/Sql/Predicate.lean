import TraceAudit.Sql.Decimal
import TraceAudit.Sql.Expr
import TraceAudit.Text.AsciiCase

/-!
# Conditions

A condition keeps of an expression what decides whether it is true of every row: literals,
equality, and the logical operators. Spacing, case, parentheses and the order of operands are gone
or do not matter. `isTautology` and `isContradiction` never guess: a column, a call or a comparison
of unlike literals is undecided.
-/

namespace TraceAudit.Sql

/-- A literal in a condition. -/
inductive Literal where
  /-- The number's text, as written. -/
  | number (text : String)
  | text (content : String)
  | bool (value : Bool)
  | null
  deriving DecidableEq, Repr

/-- How two sides of a comparison are compared. -/
inductive Comparison where
  | equal
  | notEqual
  /-- An order, a pattern or an arithmetic operator, which is never decided. -/
  | other
  deriving DecidableEq, Repr

inductive Predicate where
  | literal (l : Literal)
  /-- A column by its small-letter name, qualifiers and all. -/
  | column (name : String)
  | compare (op : Comparison) (left right : Predicate)
  | and (p q : Predicate)
  | or (p q : Predicate)
  | not (p : Predicate)
  /-- Any other expression. -/
  | undecided
  deriving DecidableEq, Repr

namespace Literal

/-- The literal that a value stands for; none for byte strings and the like. -/
def ofValue? : Value → Option Literal
  | .number digits => some (.number digits)
  | .text .single content => some (.text content)
  | .text .double content => some (.text content)
  | .text _ _ => none
  | .bool b => some (.bool b)
  | .null => some .null
  | .placeholder _ => none

/-- The truth of a literal that stands as a condition: a number is true unless it is zero. -/
def truth? : Literal → Option Bool
  | .bool b => some b
  | .number digits => (Decimal.ofText? digits).map (·.digits != ['0'])
  | .text _ => none
  | .null => none

/-- Whether two literals are equal. Texts that differ may be equal to a collation that ignores
case, null equals nothing, and unlike literals may be converted, so all of these are undecided. -/
def same? : Literal → Literal → Option Bool
  | .number x, .number y => do return (← Decimal.ofText? x) == (← Decimal.ofText? y)
  | .text x, .text y => if x = y then some true else none
  | .bool x, .bool y => some (x == y)
  | _, _ => none

end Literal

namespace Predicate

/-- The condition that an expression states. -/
def ofExpr : Expr → Predicate
  | .nested e => ofExpr e
  | .value v =>
      match Literal.ofValue? v with
      | some l => .literal l
      | none => .undecided
  | .column path => .column (".".intercalate (path.map Text.lower))
  | .binary .and l r => .and (ofExpr l) (ofExpr r)
  | .binary .or l r => .or (ofExpr l) (ofExpr r)
  | .binary .equal l r => .compare .equal (ofExpr l) (ofExpr r)
  | .binary .notEqual l r => .compare .notEqual (ofExpr l) (ofExpr r)
  | .binary .other l r => .compare .other (ofExpr l) (ofExpr r)
  | .unary .not e => .not (ofExpr e)
  | .unary _ _ => .undecided
  | .other => .undecided

/-- The truth of a comparison of two literals. -/
def compareTruth? (op : Comparison) : Predicate → Predicate → Option Bool
  | .literal l, .literal r =>
      match op with
      | .equal => l.same? r
      | .notEqual => (l.same? r).map (!·)
      | .other => none
  | _, _ => none

mutual
/-- Whether a condition is true of every row, whatever the rows hold. -/
def isTautology : Predicate → Bool
  | .literal l => l.truth? == some true
  | .compare op p q => compareTruth? op p q == some true
  | .or p q => isTautology p || isTautology q
  | .and p q => isTautology p && isTautology q
  | .not p => isContradiction p
  | .column _ => false
  | .undecided => false

/-- Whether a condition is false of every row, whatever the rows hold. -/
def isContradiction : Predicate → Bool
  | .literal l => l.truth? == some false
  | .compare op p q => compareTruth? op p q == some false
  | .or p q => isContradiction p && isContradiction q
  | .and p q => isContradiction p || isContradiction q
  | .not p => isTautology p
  | .column _ => false
  | .undecided => false
end

end Predicate
end TraceAudit.Sql
