import TraceAudit.Proofs.Sql.DecimalValue
import TraceAudit.Sql.Predicate

/-!
# Conditions in three-valued logic

Of a row, a condition is true, false or unknown. A leaf that the literals decide has the truth that
they give it, any other leaf may have any truth, and the connectives are those of strong Kleene
logic. A condition is found to be a tautology exactly if it is true under every assignment of
truths to the undecided leaves, and to be a contradiction exactly if it is false under every one.
-/

namespace TraceAudit.Sql

/-- The truth of a condition of one row. -/
inductive Truth where
  | holds
  | fails
  | unknown
  deriving DecidableEq, Repr

namespace Truth

def ofBool : Bool → Truth
  | true => holds
  | false => fails

def and : Truth → Truth → Truth
  | fails, _ => fails
  | _, fails => fails
  | holds, holds => holds
  | _, _ => unknown

def or : Truth → Truth → Truth
  | holds, _ => holds
  | _, holds => holds
  | fails, fails => fails
  | _, _ => unknown

def not : Truth → Truth
  | holds => fails
  | fails => holds
  | unknown => unknown

@[simp] theorem and_eq_holds_iff (a b : Truth) : a.and b = holds ↔ a = holds ∧ b = holds := by
  cases a <;> cases b <;> decide

@[simp] theorem and_eq_fails_iff (a b : Truth) : a.and b = fails ↔ a = fails ∨ b = fails := by
  cases a <;> cases b <;> decide

@[simp] theorem or_eq_holds_iff (a b : Truth) : a.or b = holds ↔ a = holds ∨ b = holds := by
  cases a <;> cases b <;> decide

@[simp] theorem or_eq_fails_iff (a b : Truth) : a.or b = fails ↔ a = fails ∧ b = fails := by
  cases a <;> cases b <;> decide

@[simp] theorem not_eq_holds_iff (a : Truth) : a.not = holds ↔ a = fails := by
  cases a <;> decide

@[simp] theorem not_eq_fails_iff (a : Truth) : a.not = fails ↔ a = holds := by
  cases a <;> decide

/-- A truth tells no more than another: it is unknown or the same. -/
def Below (a b : Truth) : Prop := a = unknown ∨ a = b

theorem below_refl (a : Truth) : a.Below a := .inr rfl

theorem unknown_below (a : Truth) : unknown.Below a := .inl rfl

/-- The more is known of the parts, the more is known of the whole. -/
theorem Below.and {a b c d : Truth} (first : a.Below b) (second : c.Below d) :
    (a.and c).Below (b.and d) := by
  rcases first with rfl | rfl
  · rcases second with rfl | rfl
    · exact unknown_below _
    · cases c <;> cases b <;> simp [Truth.and, Below]
  · rcases second with rfl | rfl
    · cases a <;> cases d <;> simp [Truth.and, Below]
    · exact below_refl _

theorem Below.or {a b c d : Truth} (first : a.Below b) (second : c.Below d) :
    (a.or c).Below (b.or d) := by
  rcases first with rfl | rfl
  · rcases second with rfl | rfl
    · exact unknown_below _
    · cases c <;> cases b <;> simp [Truth.or, Below]
  · rcases second with rfl | rfl
    · cases a <;> cases d <;> simp [Truth.or, Below]
    · exact below_refl _

theorem Below.not {a b : Truth} (below : a.Below b) : a.not.Below b.not := by
  rcases below with rfl | rfl
  · exact unknown_below _
  · exact below_refl _

/-- What is known stays. -/
theorem Below.eq_of_known {a b : Truth} (below : a.Below b) (known : a ≠ unknown) : b = a :=
  (below.resolve_left known).symm

end Truth

/-- The side of a connective. -/
inductive Side where
  | left
  | right
  deriving DecidableEq, Repr

/-- A truth for each place in a condition, given by the sides taken at the connectives above it. -/
abbrev Assignment := List Side → Truth

/-- What an assignment says of one side of a connective. -/
def Assignment.on (given : Assignment) (side : Side) : Assignment :=
  fun way => given (side :: way)

/-- Nothing is known. -/
def Assignment.unknown : Assignment := fun _ => .unknown

namespace Literal

/-- The truth of a literal that stands as a condition, if it is decided: a number that has an exact
value is true unless it is zero. -/
def condition? : Literal → Option Bool
  | .bool b => some b
  | .number digits => (Decimal.exactValue? digits).map fun x => decide (x ≠ 0)
  | .text _ => none
  | .null => none

/-- Whether two literals are equal, if it is decided: for two numbers that have exact values, two
Boolean values, and two texts that are identical. -/
def equality? : Literal → Literal → Option Bool
  | .number x, .number y => do
      return decide ((← Decimal.exactValue? x) = (← Decimal.exactValue? y))
  | .bool x, .bool y => some (decide (x = y))
  | .text x, .text y => if x = y then some true else none
  | _, _ => none

theorem truth?_eq_condition? (l : Literal) : l.truth? = l.condition? := by
  cases l with
  | number digits =>
      rw [truth?, condition?, Decimal.exactValue?_eq, Option.map_map]
      cases read : Decimal.ofText? digits with
      | none => rfl
      | some d =>
          obtain ⟨_, _, normal, _⟩ := Decimal.ofText?_sound read
          have zero := normal.value_eq_zero_iff
          simp only [Option.map_some, Function.comp_apply, ne_eq, zero, bne, beq_eq_decide,
            decide_not]
  | text content => rfl
  | bool value => rfl
  | null => rfl

theorem same?_eq_equality? (l r : Literal) : l.same? r = l.equality? r := by
  cases l with
  | number x =>
      cases r with
      | number y =>
          rw [same?, equality?, Decimal.exactValue?_eq, Decimal.exactValue?_eq]
          cases left : Decimal.ofText? x with
          | none => rfl
          | some c =>
              cases right : Decimal.ofText? y with
              | none => rfl
              | some d =>
                  obtain ⟨_, _, first, _⟩ := Decimal.ofText?_sound left
                  obtain ⟨_, _, second, _⟩ := Decimal.ofText?_sound right
                  have same : c = d ↔ c.value = d.value :=
                    ⟨congrArg Decimal.value, first.eq_of_value second⟩
                  simp [← same, beq_eq_decide]
      | _ => rfl
  | bool x =>
      cases r with
      | bool y => simp [same?, equality?, beq_eq_decide]
      | _ => rfl
  | text x => cases r <;> rfl
  | null => cases r <;> rfl

end Literal

namespace Predicate

/-- The truth of a comparison, if its sides are literals that decide it. -/
def comparison? : Comparison → Predicate → Predicate → Option Bool
  | .equal, .literal l, .literal r => l.equality? r
  | .notEqual, .literal l, .literal r => (l.equality? r).map (!·)
  | _, _, _ => none

theorem compareTruth?_eq_comparison? (op : Comparison) (p q : Predicate) :
    compareTruth? op p q = comparison? op p q := by
  cases p with
  | literal l =>
      cases q with
      | literal r => cases op <;> simp [compareTruth?, comparison?, Literal.same?_eq_equality?]
      | _ => cases op <;> rfl
  | _ => cases op <;> rfl

/-- The truth of a condition under an assignment to the leaves that are not decided. -/
def truth : Predicate → Assignment → Truth
  | .literal l, given => l.condition?.elim (given []) .ofBool
  | .column _, given => given []
  | .compare op p q, given => (comparison? op p q).elim (given []) .ofBool
  | .and p q, given => (p.truth (given.on .left)).and (q.truth (given.on .right))
  | .or p q, given => (p.truth (given.on .left)).or (q.truth (given.on .right))
  | .not p, given => (p.truth given).not
  | .undecided, given => given []

/-- Of a leaf, only what is decided is known when nothing else is. -/
theorem elim_unknown_iff (decided : Option Bool) :
    ((decided == some true) = true ↔ decided.elim .unknown .ofBool = Truth.holds) ∧
      ((decided == some false) = true ↔ decided.elim .unknown .ofBool = Truth.fails) := by
  rcases decided with _ | (_ | _) <;> decide

/-- A condition is a tautology exactly if it holds when nothing is known, and a contradiction
exactly if it fails then. -/
theorem truth_unknown (p : Predicate) :
    (p.isTautology = true ↔ p.truth .unknown = .holds) ∧
      (p.isContradiction = true ↔ p.truth .unknown = .fails) := by
  induction p with
  | literal l =>
      rw [isTautology, isContradiction, Literal.truth?_eq_condition?]
      exact elim_unknown_iff l.condition?
  | column name => exact elim_unknown_iff none
  | compare op p q _ _ =>
      rw [isTautology, isContradiction, compareTruth?_eq_comparison?]
      exact elim_unknown_iff (comparison? op p q)
  | and p q first second =>
      rw [isTautology, isContradiction, truth, Bool.and_eq_true, Bool.or_eq_true, first.1, first.2,
        second.1, second.2, Truth.and_eq_holds_iff, Truth.and_eq_fails_iff]
      exact ⟨Iff.rfl, Iff.rfl⟩
  | or p q first second =>
      rw [isTautology, isContradiction, truth, Bool.or_eq_true, Bool.and_eq_true, first.1, first.2,
        second.1, second.2, Truth.or_eq_holds_iff, Truth.or_eq_fails_iff]
      exact ⟨Iff.rfl, Iff.rfl⟩
  | not p inner =>
      rw [isTautology, isContradiction, truth, inner.1, inner.2, Truth.not_eq_holds_iff,
        Truth.not_eq_fails_iff]
      exact ⟨Iff.rfl, Iff.rfl⟩
  | undecided => exact elim_unknown_iff none

/-- A decided leaf has its truth under every assignment, and any other leaf has what is given. -/
theorem elim_below (decided : Option Bool) {a b : Truth} (below : a.Below b) :
    (decided.elim a .ofBool).Below (decided.elim b .ofBool) := by
  cases decided with
  | none => exact below
  | some b => exact Truth.below_refl _

/-- The more is known of the leaves, the more is known of the condition. -/
theorem truth_below (p : Predicate) {less more : Assignment}
    (below : ∀ way, (less way).Below (more way)) : (p.truth less).Below (p.truth more) := by
  induction p generalizing less more with
  | literal l => exact elim_below l.condition? (below [])
  | column name => exact below []
  | compare op p q _ _ => exact elim_below (comparison? op p q) (below [])
  | and p q first second =>
      exact (first fun way => below (.left :: way)).and (second fun way => below (.right :: way))
  | or p q first second =>
      exact (first fun way => below (.left :: way)).or (second fun way => below (.right :: way))
  | not p inner => exact (inner below).not
  | undecided => exact below []

/-- What a condition is when nothing is known, it is under every assignment. -/
theorem truth_eq_of_known (p : Predicate) (known : p.truth .unknown ≠ .unknown)
    (given : Assignment) : p.truth given = p.truth .unknown :=
  (p.truth_below fun _ => Truth.unknown_below _).eq_of_known known

/-- A condition is found to be a tautology exactly if it holds under every assignment of truths to
its undecided leaves, and to be a contradiction exactly if it fails under every one. It is never
both. -/
theorem decided_iff_under_every_assignment (p : Predicate) :
    (p.isTautology = true ↔ ∀ given, p.truth given = .holds) ∧
      (p.isContradiction = true ↔ ∀ given, p.truth given = .fails) ∧
      ¬ (p.isTautology = true ∧ p.isContradiction = true) := by
  obtain ⟨tautology, contradiction⟩ := p.truth_unknown
  rw [tautology, contradiction]
  refine ⟨⟨fun holds given => ?_, fun all => all .unknown⟩,
    ⟨fun fails given => ?_, fun all => all .unknown⟩, ?_⟩
  · rw [p.truth_eq_of_known (by simp [holds]), holds]
  · rw [p.truth_eq_of_known (by simp [fails]), fails]
  · rintro ⟨holds, fails⟩
    rw [holds] at fails
    cases fails

/-- A column or its negation is no tautology: the column may be unknown. -/
example : (Predicate.or (.column "a") (.not (.column "a"))).isTautology = false := by decide

/-- One number in three spellings. -/
example :
    (Predicate.and (.compare .equal (.literal (.number "1")) (.literal (.number "1.0")))
      (.compare .equal (.literal (.number "1")) (.literal (.number "10e-1")))).isTautology =
        true := by
  decide +kernel

end Predicate
end TraceAudit.Sql
