import TraceAudit.Proofs.Report.Tally
import TraceAudit.Proofs.Sql.Faults

/-!
# Changes of all rows

A deletion or an update of all rows is a fault, whether it lacks a condition or has one that is
always true. Every such change that stands as a statement of its own raises its rule. One that is
the body of a query, after common tables, raises nothing itself, so its rule is raised exactly if
some statement of the same text that stands on its own has the same fault.
-/

namespace TraceAudit.Sql

/-- A change of the rows that a condition selects, or of all rows. -/
inductive Mutation where
  | delete (condition : Option Expr)
  | update (condition : Option Expr)
  deriving DecidableEq, Repr

namespace Mutation

/-- A change of all rows: it has no condition, or one that is true of every row. -/
inductive HasFault : Mutation → SqlFault → Prop where
  | deleteAll : HasFault (.delete none) .deleteAll
  | updateAll : HasFault (.update none) .updateAll
  | deleteAlways {e : Expr} (always : (Predicate.ofExpr e).isTautology = true) :
      HasFault (.delete (some e)) .deleteAlways
  | updateAlways {e : Expr} (always : (Predicate.ofExpr e).isTautology = true) :
      HasFault (.update (some e)) .updateAlways

/-- The statement that is a change and nothing else. -/
def statement : Mutation → Statement
  | .delete condition => .delete condition
  | .update condition => .update condition

/-- A condition is at fault when there is none, or when it is always true. -/
theorem mutationFault?_eq_some_iff {all always f : SqlFault} {condition : Option Expr} :
    mutationFault? all always condition = some f ↔
      condition = none ∧ f = all ∨
        ∃ e, condition = some e ∧ (Predicate.ofExpr e).isTautology = true ∧ f = always := by
  cases condition with
  | none => simp [mutationFault?, eq_comm (a := all)]
  | some e =>
      simp only [mutationFault?, Option.some.injEq, exists_eq_left', reduceCtorEq, false_and,
        false_or]
      split
      · rename_i always_true
        simp [always_true, eq_comm (a := always)]
      · rename_i undecided
        simp [undecided]

/-- A change on its own has the faults of a change of all rows. -/
theorem fault?_statement (m : Mutation) (f : SqlFault) :
    m.statement.fault? = some f ↔ m.HasFault f := by
  constructor
  · intro found
    cases m with
    | delete condition =>
        rcases mutationFault?_eq_some_iff.1 found with ⟨rfl, rfl⟩ | ⟨e, rfl, always, rfl⟩
        · exact .deleteAll
        · exact .deleteAlways always
    | update condition =>
        rcases mutationFault?_eq_some_iff.1 found with ⟨rfl, rfl⟩ | ⟨e, rfl, always, rfl⟩
        · exact .updateAll
        · exact .updateAlways always
  · intro fault
    cases fault with
    | deleteAll => rfl
    | updateAll => rfl
    | deleteAlways always => exact if_pos always
    | updateAlways always => exact if_pos always

/-- A statement with the fault of a change is a change on its own. -/
theorem exists_of_fault? {m : Mutation} {f : SqlFault} (fault : m.HasFault f) {s : Statement}
    (found : s.fault? = some f) : ∃ own : Mutation, s = own.statement ∧ own.HasFault f := by
  cases s with
  | delete condition => exact ⟨.delete condition, rfl, (fault?_statement _ f).1 found⟩
  | update condition => exact ⟨.update condition, rfl, (fault?_statement _ f).1 found⟩
  | truncate tables =>
      simp only [Statement.fault?] at found
      split at found
      · cases found
      · obtain rfl := Option.some.inj found
        cases fault
  | drop kind =>
      cases kind with
      | table =>
          obtain rfl := Option.some.inj found
          cases fault
      | database =>
          obtain rfl := Option.some.inj found
          cases fault
      | other => cases found
  | query body => cases found
  | explain => cases found
  | other => cases found

end Mutation

/-- The change that a statement makes, be it the whole statement or the body of a query. -/
def Statement.mutation? : Statement → Option Mutation
  | .delete condition => some (.delete condition)
  | .update condition => some (.update condition)
  | .query (.update condition) => some (.update condition)
  | .query .rows => none
  | .query .insert => none
  | .truncate _ => none
  | .drop _ => none
  | .explain => none
  | .other => none

/-- A statement that makes a change either is that change or is a query with an update as its
body. -/
theorem Statement.mutation?_eq_some_iff {s : Statement} {m : Mutation} :
    s.mutation? = some m ↔
      s = m.statement ∨ ∃ condition, s = .query (.update condition) ∧ m = .update condition := by
  constructor
  · intro made
    cases s with
    | delete condition => exact .inl (by obtain rfl := Option.some.inj made; rfl)
    | update condition => exact .inl (by obtain rfl := Option.some.inj made; rfl)
    | query body =>
        cases body with
        | update condition => exact .inr ⟨condition, rfl, (Option.some.inj made).symm⟩
        | rows => cases made
        | insert => cases made
    | truncate tables => cases made
    | drop kind => cases made
    | explain => cases made
    | other => cases made
  · rintro (rfl | ⟨condition, rfl, rfl⟩)
    · cases m <;> rfl
    · rfl

/-! ## What a query raises -/

/-- A query raises the rule of a fault. -/
def Raises (query : String) (f : SqlFault) : Prop :=
  ∃ d ∈ (checkQuery query).detections, d.rule = f.rule

/-- A fault is known by its rule. -/
theorem rule_inj {f g : SqlFault} (same : f.rule = g.rule) : f = g :=
  SqlFault.id_inj (congrArg Rule.id same)

/-- A text that can be read raises the rules of the faults of its statements. -/
theorem raises_iff {query : String} {statements : List Statement}
    (parsed : parse? query = some statements) (f : SqlFault) :
    Raises query f ↔ ∃ s ∈ statements, s.fault? = some f := by
  rw [Raises, ← mem_faults]
  cases statements with
  | nil => simp [checkQuery, parsed, Outcome.detections, faults]
  | cons s rest =>
      rw [checkQuery_of_parsed parsed (List.cons_ne_nil s rest)]
      constructor
      · rintro ⟨d, raised, same⟩
        obtain ⟨g, there, rfl⟩ := List.mem_map.1 raised
        exact rule_inj same ▸ there
      · intro there
        exact ⟨_, List.mem_map.2 ⟨f, there, rfl⟩, rfl⟩

/-- A change of all rows raises its rule if it stands on its own. All such changes of a text do,
those in queries among them, exactly if for each one in a query there is one of the same fault that
stands on its own. -/
theorem mutations_raised_iff {query : String} {statements : List Statement}
    (parsed : parse? query = some statements) :
    (∀ m f, Mutation.statement m ∈ statements → m.HasFault f → Raises query f) ∧
    ((∀ s ∈ statements, ∀ m f, s.mutation? = some m → m.HasFault f → Raises query f) ↔
      ∀ condition f, .query (.update condition) ∈ statements →
        (Mutation.update condition).HasFault f →
          ∃ own : Mutation, own.statement ∈ statements ∧ own.HasFault f) := by
  have alone (m : Mutation) (f : SqlFault) (there : m.statement ∈ statements)
      (fault : m.HasFault f) : Raises query f :=
    (raises_iff parsed f).2 ⟨m.statement, there, (m.fault?_statement f).2 fault⟩
  refine ⟨alone, fun all condition f there fault => ?_, fun covered s there m f made fault => ?_⟩
  · have raised := all _ there (.update condition) f rfl fault
    obtain ⟨s, listed, found⟩ := (raises_iff parsed f).1 raised
    obtain ⟨own, rfl, same⟩ := Mutation.exists_of_fault? fault found
    exact ⟨own, listed, same⟩
  · rcases Statement.mutation?_eq_some_iff.1 made with rfl | ⟨condition, rfl, rfl⟩
    · exact alone m f there fault
    · obtain ⟨own, listed, same⟩ := covered condition f there fault
      exact alone own f listed same

/-- The condition that a column has a value or that a text is itself. -/
def looseCondition : Expr :=
  .binary .or (.binary .equal (.column ["a"]) (.value (.number "1")))
    (.binary .equal (.value (.text .single "x")) (.value (.text .single "x")))

/-- A deletion under that condition is raised. -/
theorem looseCondition_raised :
    Raises "SELECT 1; DELETE FROM t WHERE a = 1 OR 'x' = 'x'" .deleteAlways := by
  have parsed : parse? "SELECT 1; DELETE FROM t WHERE a = 1 OR 'x' = 'x'" =
      some [.query .rows, .delete (some looseCondition)] := by
    decide +kernel
  have always : (Predicate.ofExpr looseCondition).isTautology = true := by decide
  exact (mutations_raised_iff parsed).1 (.delete (some looseCondition)) .deleteAlways (by decide)
    (.deleteAlways always)

/-- An update of all rows after a common table raises nothing. -/
theorem update_in_query_passes :
    parse? "WITH x AS (SELECT 1) UPDATE t SET a = 1" = some [.query (.update none)] ∧
      (Mutation.update none).HasFault .updateAll ∧
      checkQuery "WITH x AS (SELECT 1) UPDATE t SET a = 1" = .analyzed [] :=
  ⟨by decide +kernel, .updateAll, by decide +kernel⟩

end TraceAudit.Sql
