import Mathlib.Logic.Relation
import TraceAudit.Proofs.Sql.Literals

/-!
# Conditions written in other ways

A condition may be written with more or fewer parentheses, with the sides of `AND`, `OR`, `=` and
`<>` in the other order, and with its columns in other letters, at any depth. Each such step keeps
what is known of the condition: whether it is a literal, and which, and whether it is always true or
always false. So a change of rows under it has the same fault, however often it is rewritten.
-/

namespace TraceAudit.Sql

/-- One step that writes an expression in another way. -/
inductive Rewrite : Expr → Expr → Prop where
  | wrap (e : Expr) : Rewrite e (.nested e)
  | unwrap (e : Expr) : Rewrite (.nested e) e
  | swap {op : BinaryOp} (known : op ≠ .other) (l r : Expr) :
      Rewrite (.binary op l r) (.binary op r l)
  | recase {path other : List String} (same : other.map Text.lower = path.map Text.lower) :
      Rewrite (.column path) (.column other)
  | inNested {e f : Expr} (inner : Rewrite e f) : Rewrite (.nested e) (.nested f)
  | inLeft (op : BinaryOp) {e f : Expr} (inner : Rewrite e f) (r : Expr) :
      Rewrite (.binary op e r) (.binary op f r)
  | inRight (op : BinaryOp) (l : Expr) {e f : Expr} (inner : Rewrite e f) :
      Rewrite (.binary op l e) (.binary op l f)
  | inNot {e f : Expr} (inner : Rewrite e f) : Rewrite (.unary .not e) (.unary .not f)

/-- Any number of such steps. -/
abbrev Rewrites : Expr → Expr → Prop := Relation.ReflTransGen Rewrite

/-! ## Literals -/

theorem Literal.same?_comm (l r : Literal) : l.same? r = r.same? l := by
  cases l with
  | number x =>
      cases r with
      | number y =>
          simp only [same?]
          cases Decimal.ofText? x with
          | none => cases Decimal.ofText? y <;> rfl
          | some c =>
              cases Decimal.ofText? y with
              | none => rfl
              | some d => exact congrArg some Bool.beq_comm
      | _ => rfl
  | text x =>
      cases r with
      | text y => simp only [same?, eq_comm]
      | _ => rfl
  | bool x =>
      cases r with
      | bool y => exact congrArg some Bool.beq_comm
      | _ => rfl
  | null => cases r <;> rfl

namespace Predicate

/-- The literal that a condition is, if it is one. -/
def literal? : Predicate → Option Literal
  | .literal l => some l
  | _ => none

/-- A comparison is decided by the literals on its sides. -/
theorem compareTruth?_eq_bind (op : Comparison) (p q : Predicate) :
    compareTruth? op p q = p.literal?.bind fun l => q.literal?.bind fun r =>
      compareTruth? op (.literal l) (.literal r) := by
  cases p with
  | literal l => cases q <;> rfl
  | _ => rfl

theorem compareTruth?_congr {p q left right : Predicate} (op : Comparison)
    (first : p.literal? = left.literal?) (second : q.literal? = right.literal?) :
    compareTruth? op p q = compareTruth? op left right := by
  rw [compareTruth?_eq_bind op p q, compareTruth?_eq_bind op left right, first, second]

/-- Sides of a comparison may be exchanged. -/
theorem compareTruth?_comm (op : Comparison) (p q : Predicate) :
    compareTruth? op p q = compareTruth? op q p := by
  cases p with
  | literal l =>
      cases q with
      | literal r => cases op <;> simp only [compareTruth?, Literal.same?_comm l r]
      | _ => rfl
  | _ => cases q <;> rfl

/-- Two conditions of which the same is known. -/
structure Alike (p q : Predicate) : Prop where
  literal : p.literal? = q.literal?
  tautology : p.isTautology = q.isTautology
  contradiction : p.isContradiction = q.isContradiction

namespace Alike

variable {p q left right : Predicate}

theorem refl (p : Predicate) : Alike p p := ⟨rfl, rfl, rfl⟩

theorem trans (first : Alike p q) (second : Alike q right) : Alike p right :=
  ⟨first.literal.trans second.literal, first.tautology.trans second.tautology,
    first.contradiction.trans second.contradiction⟩

theorem not (inner : Alike p q) : Alike (.not p) (.not q) :=
  ⟨rfl, inner.contradiction, inner.tautology⟩

theorem and (first : Alike p left) (second : Alike q right) :
    Alike (.and p q) (.and left right) where
  literal := rfl
  tautology := by
    rw [isTautology, isTautology, first.tautology, second.tautology]
  contradiction := by
    rw [isContradiction, isContradiction, first.contradiction, second.contradiction]

theorem or (first : Alike p left) (second : Alike q right) :
    Alike (.or p q) (.or left right) where
  literal := rfl
  tautology := by
    rw [isTautology, isTautology, first.tautology, second.tautology]
  contradiction := by
    rw [isContradiction, isContradiction, first.contradiction, second.contradiction]

theorem compare (op : Comparison) (first : Alike p left) (second : Alike q right) :
    Alike (.compare op p q) (.compare op left right) where
  literal := rfl
  tautology := by
    rw [isTautology, isTautology, compareTruth?_congr op first.literal second.literal]
  contradiction := by
    rw [isContradiction, isContradiction, compareTruth?_congr op first.literal second.literal]

theorem and_comm (p q : Predicate) : Alike (.and p q) (.and q p) where
  literal := rfl
  tautology := by rw [isTautology, isTautology, Bool.and_comm]
  contradiction := by rw [isContradiction, isContradiction, Bool.or_comm]

theorem or_comm (p q : Predicate) : Alike (.or p q) (.or q p) where
  literal := rfl
  tautology := by rw [isTautology, isTautology, Bool.or_comm]
  contradiction := by rw [isContradiction, isContradiction, Bool.and_comm]

theorem compare_comm (op : Comparison) (p q : Predicate) :
    Alike (.compare op p q) (.compare op q p) where
  literal := rfl
  tautology := by rw [isTautology, isTautology, compareTruth?_comm]
  contradiction := by rw [isContradiction, isContradiction, compareTruth?_comm]

end Alike

/-! ## Rewriting -/

/-- An operator joins alike conditions to alike ones. -/
theorem alike_binary (op : BinaryOp) {l r left right : Expr}
    (first : Alike (ofExpr l) (ofExpr left)) (second : Alike (ofExpr r) (ofExpr right)) :
    Alike (ofExpr (.binary op l r)) (ofExpr (.binary op left right)) := by
  cases op with
  | and => exact first.and second
  | or => exact first.or second
  | equal => exact first.compare .equal second
  | notEqual => exact first.compare .notEqual second
  | other => exact first.compare .other second

/-- One step keeps what is known of a condition. -/
theorem alike_of_rewrite {e f : Expr} (step : Rewrite e f) : Alike (ofExpr e) (ofExpr f) := by
  induction step with
  | wrap e => exact .refl _
  | unwrap e => exact .refl _
  | swap known l r =>
      rename_i op
      cases op with
      | and => exact .and_comm _ _
      | or => exact .or_comm _ _
      | equal => exact .compare_comm .equal _ _
      | notEqual => exact .compare_comm .notEqual _ _
      | other => exact absurd rfl known
  | recase same =>
      rw [ofExpr, ofExpr, same]
      exact .refl _
  | inNested inner ih => exact ih
  | inLeft op inner r ih => exact alike_binary op ih (.refl _)
  | inRight op l inner ih => exact alike_binary op (.refl _) ih
  | inNot inner ih => exact ih.not

/-- However a condition is rewritten, the same is known of it. -/
theorem alike_of_rewrites {e f : Expr} (steps : Rewrites e f) : Alike (ofExpr e) (ofExpr f) := by
  induction steps with
  | refl => exact .refl _
  | tail _ step ih => exact ih.trans (alike_of_rewrite step)

end Predicate

/-- A deletion or an update has the same fault under a condition as under one that it can be
rewritten to, and queries that make the one and the other raise the same. -/
theorem rewritten_same_fault {e f : Expr} (steps : Rewrites e f) :
    (∀ all always, mutationFault? all always (some e) = mutationFault? all always (some f)) ∧
    ∀ (change : Change) (query other : String),
      parse? query = some [(change.under e).statement] →
      parse? other = some [(change.under f).statement] →
        ∀ fault, Raises query fault ↔ Raises other fault := by
  have tautology := (Predicate.alike_of_rewrites steps).tautology
  have same (all always : SqlFault) :
      mutationFault? all always (some e) = mutationFault? all always (some f) := by
    rw [mutationFault?, mutationFault?, tautology]
  refine ⟨same, fun change query other first second fault => ?_⟩
  have faults : (change.under e).statement.fault? = (change.under f).statement.fault? := by
    cases change with
    | deletion => exact same .deleteAll .deleteAlways
    | update => exact same .updateAll .updateAlways
  rw [raises_iff first, raises_iff second]
  simp only [List.mem_singleton, exists_eq_left, faults]

/-- That a column is greater than two, or that one is one. -/
def plainCondition : Expr :=
  .binary .or (.binary .other (.column ["T", "A"]) (.value (.number "2")))
    (.binary .equal (.value (.number "1")) (.value (.number "1.0")))

/-- The same with its sides exchanged, in small letters and with parentheses. -/
def turnedCondition : Expr :=
  .binary .or (.nested (.binary .equal (.value (.number "1.0")) (.value (.number "1"))))
    (.nested (.binary .other (.column ["t", "a"]) (.nested (.value (.number "2")))))

theorem rewrites_plainCondition : Rewrites plainCondition turnedCondition := by
  have small : ["t", "a"].map Text.lower = ["T", "A"].map Text.lower := by decide
  refine .head (.swap (by decide) _ _) ?_
  refine .head (.inLeft .or (.swap (by decide) _ _) _) ?_
  refine .head (.inLeft .or (.wrap _) _) ?_
  refine .head (.inRight .or _ (.inLeft .other (.recase small) _)) ?_
  refine .head (.inRight .or _ (.inRight .other _ (.wrap _))) ?_
  exact .single (.inRight .or _ (.wrap _))

/-- A deletion under the one condition is raised, and so is a deletion under the other. -/
theorem turnedCondition_raised :
    Raises "DELETE FROM t WHERE T.A > 2 OR 1 = 1.0" .deleteAlways ∧
      Raises "DELETE FROM t WHERE (1.0 = 1) OR (t.a > (2))" .deleteAlways := by
  have first : parse? "DELETE FROM t WHERE T.A > 2 OR 1 = 1.0" =
      some [(Change.deletion.under plainCondition).statement] := by
    decide +kernel
  have second : parse? "DELETE FROM t WHERE (1.0 = 1) OR (t.a > (2))" =
      some [(Change.deletion.under turnedCondition).statement] := by
    decide +kernel
  have always : (Predicate.ofExpr plainCondition).isTautology = true := by decide
  have raised := (Change.raises_always_iff first).2 always
  have same := (rewritten_same_fault rewrites_plainCondition).2 .deletion _ _ first second
  exact ⟨raised, (same .deleteAlways).1 raised⟩

end TraceAudit.Sql
