/-!
# Ranges of integers

The integers that a machine word can hold.
-/

namespace TraceAudit

/-- The integers from one to another, both included. -/
structure IntRange where
  least : Int
  greatest : Int
  deriving DecidableEq, Repr

namespace IntRange

/-- Words of sixty-four bits with a sign. -/
def signed64 : IntRange := ⟨-9223372036854775808, 9223372036854775807⟩

/-- Words of sixty-four bits without a sign. -/
def unsigned64 : IntRange := ⟨0, 18446744073709551615⟩

/-- Words of thirty-two bits with a sign. -/
def signed32 : IntRange := ⟨-2147483648, 2147483647⟩

/-- An integer, if it is in the range. -/
def holding? (r : IntRange) (n : Int) : Option Int :=
  if r.least ≤ n ∧ n ≤ r.greatest then some n else none

theorem holding?_eq_some_iff {r : IntRange} {n m : Int} :
    r.holding? n = some m ↔ n = m ∧ r.least ≤ n ∧ n ≤ r.greatest := by
  unfold holding?
  split
  · simp [*]
  · simp only [reduceCtorEq, false_iff]
    exact fun h => absurd h.2 ‹_›

end IntRange
end TraceAudit
