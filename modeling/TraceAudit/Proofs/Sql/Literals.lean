import Mathlib.Algebra.Group.Nat.Defs
import TraceAudit.Proofs.Sql.Mutations

/-!
# Literals compared with themselves

A condition that compares a literal with itself holds of every row. It is found to do so exactly if
the value of the literal is known: a Boolean, a text in plain quotes, or a number without a sign
that has a normal form, which every number has whose digits and exponent are not enormous. A literal
with a sign, one in another kind of quotes, and a number whose exponent does not fit its word are
not decided, even against themselves. Parentheses around such a condition and other conditions that
are offered beside it with `OR` take nothing away.
-/

namespace TraceAudit.Sql

/-- The tokens of a literal that is not null, and the expression that it is: a Boolean, a text in
any quotes, or a number, perhaps with a sign before it. -/
inductive IsLiteral : List Token → Expr → Prop where
  | bool (spelling : String) (b : Bool) :
      IsLiteral [.word spelling none (if b then "TRUE" else "FALSE")] (.value (.bool b))
  | number (digits : String) : IsLiteral [.number digits] (.value (.number digits))
  | text (quoting : Quoting) (content : String) :
      IsLiteral [.text quoting content] (.value (.text quoting content))
  | plus (digits : String) :
      IsLiteral [.symbol "+", .number digits] (.unary .plus (.value (.number digits)))
  | minus (digits : String) :
      IsLiteral [.symbol "-", .number digits] (.unary .minus (.value (.number digits)))

/-- A literal whose value is known. -/
inductive IsKnown : Expr → Prop where
  | bool (b : Bool) : IsKnown (.value (.bool b))
  | single (content : String) : IsKnown (.value (.text .single content))
  | double (content : String) : IsKnown (.value (.text .double content))
  | number {digits : String} {d : Decimal} (normal : Decimal.ofText? digits = some d) :
      IsKnown (.value (.number digits))

/-! ## Conditions on literals -/

/-- A number with itself is equal exactly if it has a normal form. -/
theorem same?_number_self_iff (digits : String) :
    (Literal.number digits).same? (.number digits) = some true ↔
      ∃ d, Decimal.ofText? digits = some d := by
  rw [Literal.same?]
  cases normal : Decimal.ofText? digits with
  | none =>
      constructor
      · intro impossible
        cases impossible
      · rintro ⟨d, impossible⟩
        cases impossible
  | some d =>
      constructor
      · intro _
        exact ⟨d, rfl⟩
      · intro _
        exact congrArg some (beq_self_eq_true d)

/-- A comparison of a literal with itself is decided exactly if the literal is known. -/
theorem isTautology_equation_iff {written : List Token} {literal : Expr}
    (isLiteral : IsLiteral written literal) :
    (Predicate.ofExpr (.binary .equal literal literal)).isTautology = true ↔ IsKnown literal := by
  cases isLiteral with
  | bool spelling b =>
      constructor
      · intro _
        exact .bool b
      · intro _
        cases b <;> rfl
  | number digits =>
      have decided := same?_number_self_iff digits
      constructor
      · intro always
        obtain ⟨d, normal⟩ := decided.1 (eq_of_beq always)
        exact .number normal
      · intro known
        cases known with
        | number normal => exact beq_iff_eq.2 (decided.2 ⟨_, normal⟩)
  | text quoting content =>
      have same : (Literal.text content).same? (.text content) = some true := if_pos rfl
      constructor
      · intro always
        cases quoting with
        | single => exact .single content
        | double => exact .double content
        | national => cases always
        | escaped => cases always
        | unicode => cases always
        | bytes => cases always
        | raw => cases always
        | hex => cases always
        | dollar => cases always
      · intro known
        cases known with
        | single => exact beq_iff_eq.2 same
        | double => exact beq_iff_eq.2 same
  | plus digits =>
      constructor
      · intro impossible
        cases impossible
      · intro impossible
        cases impossible
  | minus digits =>
      constructor
      · intro impossible
        cases impossible
      · intro impossible
        cases impossible

/-- A number is known if its digits and its exponent are fewer than the numbers of a word. -/
theorem isKnown_of_small {digits : String} {n : Numeral} (read : Numeral.ofText? digits = some n)
    (small : n.exponent.natAbs + n.whole.length + n.places.length < 2 ^ 63) :
    IsKnown (.value (.number digits)) := by
  have normalized : ∃ d, Decimal.ofNumeral? n = some d := by
    unfold Decimal.ofNumeral?
    dsimp only
    generalize gone : (n.whole ++ n.places).dropWhile (· == '0') = leading
    have short : leading.length ≤ n.whole.length + n.places.length := by
      rw [← gone, ← List.length_append]
      exact (List.dropWhile_suffix _).length_le
    split
    · exact ⟨_, rfl⟩
    · generalize Text.dropEndWhile (· == '0') leading = significant
      have shifts : IntRange.signed64.holding? (n.exponent - n.places.length) =
          some (n.exponent - n.places.length) := by
        apply if_pos
        dsimp only [IntRange.signed64]
        omega
      have scales : IntRange.signed64.holding? (n.exponent - n.places.length +
          (leading.length - significant.length : Nat)) =
          some (n.exponent - n.places.length + (leading.length - significant.length : Nat)) := by
        apply if_pos
        dsimp only [IntRange.signed64]
        omega
      simp only [shifts, scales, Option.bind_eq_bind, Option.bind_some, Option.pure_def]
      exact ⟨_, rfl⟩
  obtain ⟨d, normal⟩ := normalized
  have found : Decimal.ofText? digits = some d := by
    rw [Decimal.ofText?, read]
    exact normal
  exact .number found

/-! ## Around a condition -/

/-- A condition with others offered beside it, and parentheses anywhere around them. -/
inductive Around (core : Expr) : List Expr → Expr → Prop where
  | core : Around core [] core
  | nested {others : List Expr} {e : Expr} (inner : Around core others e) :
      Around core others (.nested e)
  | before {others : List Expr} {e : Expr} (inner : Around core others e) (beside : Expr) :
      Around core (beside :: others) (.binary .or e beside)
  | after {others : List Expr} {e : Expr} (inner : Around core others e) (beside : Expr) :
      Around core (beside :: others) (.binary .or beside e)

/-- What stands around a condition takes nothing away from it. -/
theorem isTautology_around_iff {core condition : Expr} {others : List Expr}
    (around : Around core others condition) :
    (Predicate.ofExpr condition).isTautology = true ↔
      (Predicate.ofExpr core).isTautology = true ∨
        ∃ beside ∈ others, (Predicate.ofExpr beside).isTautology = true := by
  induction around with
  | core => simp
  | nested inner ih => exact ih
  | before inner beside ih =>
      simp only [Predicate.ofExpr, Predicate.isTautology, Bool.or_eq_true, ih, List.mem_cons,
        exists_eq_or_imp]
      rw [or_assoc, or_comm (b := (Predicate.ofExpr beside).isTautology = true)]
  | after inner beside ih =>
      simp only [Predicate.ofExpr, Predicate.isTautology, Bool.or_eq_true, ih, List.mem_cons,
        exists_eq_or_imp]
      rw [or_left_comm]

/-! ## Whole queries -/

/-- A change of rows under a condition. -/
inductive Change where
  | deletion
  | update

namespace Change

/-- The tokens of `DELETE FROM t WHERE` or of `UPDATE t SET a = 1 WHERE`. -/
def opening : Change → List Token
  | deletion => [.word "DELETE" none "DELETE", .word "FROM" none "FROM", .word "t" none "T",
      .word "WHERE" none "WHERE"]
  | update => [.word "UPDATE" none "UPDATE", .word "t" none "T", .word "SET" none "SET",
      .word "a" none "A", .symbol "=", .number "1", .word "WHERE" none "WHERE"]

/-- The change of the rows that a condition selects. -/
def under : Change → Expr → Mutation
  | deletion, condition => .delete (some condition)
  | update, condition => .update (some condition)

/-- The fault of a change under a condition that is always true. -/
def always : Change → SqlFault
  | deletion => .deleteAlways
  | update => .updateAlways

/-- A change under a condition is at fault exactly if the condition is always true. -/
theorem hasFault_always_iff (change : Change) (condition : Expr) :
    (change.under condition).HasFault change.always ↔
      (Predicate.ofExpr condition).isTautology = true := by
  constructor
  · intro fault
    cases change with
    | deletion =>
        cases fault with
        | deleteAlways always => exact always
    | update =>
        cases fault with
        | updateAlways always => exact always
  · intro always
    cases change with
    | deletion => exact .deleteAlways always
    | update => exact .updateAlways always

/-- A query that is one change raises it exactly if its condition is always true. -/
theorem raises_always_iff {change : Change} {condition : Expr} {query : String}
    (parsed : parse? query = some [(change.under condition).statement]) :
    Raises query change.always ↔ (Predicate.ofExpr condition).isTautology = true := by
  rw [raises_iff parsed, ← hasFault_always_iff change, ← Mutation.fault?_statement]
  simp only [List.mem_singleton, exists_eq_left]

end Change

/-- The tokens of a comparison of something with itself. -/
def equation (written : List Token) : List Token :=
  written ++ .symbol "=" :: written

/-- The tokens of something in parentheses. -/
def enclosed (written : List Token) : List Token :=
  .symbol "(" :: (written ++ [.symbol ")"])

/-- A change where a literal is itself, with or without parentheses, is read as such. -/
theorem statementsOf?_equation {written : List Token} {literal : Expr}
    (isLiteral : IsLiteral written literal) (change : Change) :
    statementsOf? (change.opening ++ equation written) =
        some [(change.under (.binary .equal literal literal)).statement] ∧
      statementsOf? (change.opening ++ enclosed (equation written)) =
        some [(change.under (.nested (.binary .equal literal literal))).statement] := by
  cases isLiteral with
  | bool spelling b => cases change <;> cases b <;> exact ⟨rfl, rfl⟩
  | number digits => cases change <;> exact ⟨rfl, rfl⟩
  | text quoting content => cases change <;> cases quoting <;> exact ⟨rfl, rfl⟩
  | plus digits => cases change <;> exact ⟨rfl, rfl⟩
  | minus digits => cases change <;> exact ⟨rfl, rfl⟩

/-- The statements of a query are those of its tokens. -/
theorem parse?_of_scan {query : String} {tokens : List Token} {statements : List Statement}
    (scanned : scan query = some tokens) (read : statementsOf? tokens = some statements) :
    parse? query = some statements := by
  rw [parse?, scanned]
  exact read

/-- A deletion or an update where a literal is itself, in parentheses or not, is raised exactly if
the literal is known, and with other conditions offered beside it, it is raised if the literal is
known or one of them is always true. A number without a sign is known unless it is enormous. -/
theorem literal_equation_raised_iff {written : List Token} {literal : Expr}
    (isLiteral : IsLiteral written literal) :
    (∀ change query condition, condition ∈ [equation written, enclosed (equation written)] →
      scan query = some (Change.opening change ++ condition) →
        (Raises query change.always ↔ IsKnown literal)) ∧
    (∀ change query condition others, Around (.binary .equal literal literal) others condition →
      parse? query = some [(Change.under change condition).statement] →
        (Raises query change.always ↔ IsKnown literal ∨
          ∃ beside ∈ others, (Predicate.ofExpr beside).isTautology = true)) ∧
    ∀ digits n, Numeral.ofText? digits = some n →
      n.exponent.natAbs + n.whole.length + n.places.length < 2 ^ 63 →
        IsKnown (.value (.number digits)) := by
  have known := isTautology_equation_iff isLiteral
  refine ⟨?_, ?_, fun digits n => isKnown_of_small⟩
  · intro change query condition listed scanned
    obtain ⟨bare, in_parentheses⟩ := statementsOf?_equation isLiteral change
    simp only [List.mem_cons, List.not_mem_nil, or_false] at listed
    rcases listed with rfl | rfl
    · rw [Change.raises_always_iff (parse?_of_scan scanned bare)]
      exact known
    · rw [Change.raises_always_iff (parse?_of_scan scanned in_parentheses)]
      exact known
  · intro change query condition others around parsed
    rw [Change.raises_always_iff parsed, isTautology_around_iff around, known]

/-- A text in plain quotes is found to be itself in parentheses, and after another condition. -/
theorem plain_text_raised :
    Raises "UPDATE t SET a = 1 WHERE ('it''s' = 'it''s')" .updateAlways ∧
      Raises "DELETE FROM t WHERE b > 2 OR ('x' = 'x')" .deleteAlways := by
  constructor
  · have isLiteral := IsLiteral.text .single "it's"
    have scanned : scan "UPDATE t SET a = 1 WHERE ('it''s' = 'it''s')" =
        some (Change.update.opening ++ enclosed (equation [.text .single "it's"])) := by
      decide +kernel
    have listed : enclosed (equation [.text .single "it's"]) ∈
        [equation [.text .single "it's"], enclosed (equation [.text .single "it's"])] := by
      simp
    have raised := (literal_equation_raised_iff isLiteral).1 .update _ _ listed scanned
    exact raised.2 (.single "it's")
  · have isLiteral := IsLiteral.text .single "x"
    have parsed : parse? "DELETE FROM t WHERE b > 2 OR ('x' = 'x')" =
        some [(Change.deletion.under (.binary .or
          (.binary .other (.column ["b"]) (.value (.number "2")))
          (.nested (.binary .equal (.value (.text .single "x"))
            (.value (.text .single "x")))))).statement] := by
      decide +kernel
    have raised := (literal_equation_raised_iff isLiteral).2.1 .deletion _ _ _
      (.after (.nested .core) _) parsed
    exact raised.2 (.inl (.single "x"))

/-- A number with a sign is not found to be itself, nor is a text with escapes, nor a number whose
exponent does not fit its word. -/
theorem signed_number_passes :
    IsLiteral [.symbol "-", .number "1"] (.unary .minus (.value (.number "1"))) ∧
      parse? "DELETE FROM t WHERE -1 = -1" = some [.delete (some (.binary .equal
        (.unary .minus (.value (.number "1"))) (.unary .minus (.value (.number "1")))))] ∧
      checkQuery "DELETE FROM t WHERE -1 = -1" = .analyzed [] ∧
      checkQuery "DELETE FROM t WHERE E'x' = E'x'" = .analyzed [] ∧
      checkQuery "DELETE FROM t WHERE 1e9223372036854775808 = 1e9223372036854775808" =
        .analyzed [] := by
  refine ⟨.minus "1", ?_, ?_, ?_, ?_⟩ <;> decide +kernel

end TraceAudit.Sql
