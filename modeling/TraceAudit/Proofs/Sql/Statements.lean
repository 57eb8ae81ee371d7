import Mathlib.Data.List.Basic
import TraceAudit.Proofs.Sql.Mutations

/-!
# Faults of several statements

A statement has at most one fault, and a query raises the faults of its statements, each once and
in the order of their names. So it does not matter in which order the statements stand or how often
one of them is repeated, and one statement more never takes a fault away.
-/

namespace TraceAudit.Sql

/-- A statement that breaks a rule: a change of all rows that stands on its own, a truncation of
some table whose name does not begin like that of a disposable one, or the drop of a table or of a
database. -/
inductive Statement.HasFault : Statement → SqlFault → Prop where
  | mutation {m : Mutation} {f : SqlFault} (fault : m.HasFault f) : HasFault m.statement f
  | truncate {tables : List (List String)} {table : List String} (listed : table ∈ tables)
      (kept : ∀ start ∈ ["tmp_", "scratch_", "temp_"],
        ¬ start.toList <+: (Text.lower (table.getLast?.getD "")).toList) :
      HasFault (.truncate tables) .truncate
  | dropTable : HasFault (.drop .table) .dropTable
  | dropDatabase : HasFault (.drop .database) .dropDatabase

namespace Statement

/-- A table may not be emptied exactly if its name begins in none of three ways. -/
theorem isDisposable_eq_false_iff (table : List String) :
    isDisposable table = false ↔ ∀ start ∈ ["tmp_", "scratch_", "temp_"],
      ¬ start.toList <+: (Text.lower (table.getLast?.getD "")).toList := by
  rw [isDisposable, disposableStarts, List.any_eq_false]
  simp only [List.isPrefixOf_iff_prefix]

/-- A truncation is at fault exactly if some table of it may not be emptied. -/
theorem fault?_truncate_eq_some_iff {tables : List (List String)} {f : SqlFault} :
    (truncate tables).fault? = some f ↔
      f = .truncate ∧ ∃ table ∈ tables, isDisposable table = false := by
  rw [fault?]
  split
  · rename_i disposable
    rw [List.all_eq_true] at disposable
    constructor
    · intro impossible
      cases impossible
    · rintro ⟨_, table, listed, kept⟩
      rw [disposable table listed] at kept
      cases kept
  · rename_i kept
    rw [Bool.not_eq_true, List.all_eq_false] at kept
    obtain ⟨table, listed, kept⟩ := kept
    constructor
    · intro found
      exact ⟨(Option.some.inj found).symm, table, listed, Bool.eq_false_iff.2 kept⟩
    · rintro ⟨rfl, _⟩
      rfl

/-- The fault that is found is the one that the statement has. -/
theorem fault?_eq_some_iff {s : Statement} {f : SqlFault} : s.fault? = some f ↔ s.HasFault f := by
  constructor
  · intro found
    cases s with
    | delete condition =>
        exact .mutation ((Mutation.fault?_statement (.delete condition) f).1 found)
    | update condition =>
        exact .mutation ((Mutation.fault?_statement (.update condition) f).1 found)
    | truncate tables =>
        obtain ⟨rfl, table, listed, kept⟩ := fault?_truncate_eq_some_iff.1 found
        exact .truncate listed ((isDisposable_eq_false_iff table).1 kept)
    | drop kind =>
        cases kind with
        | table =>
            obtain rfl := Option.some.inj found
            exact .dropTable
        | database =>
            obtain rfl := Option.some.inj found
            exact .dropDatabase
        | other => cases found
    | query body => cases found
    | explain => cases found
    | other => cases found
  · intro fault
    cases fault with
    | mutation fault => exact (Mutation.fault?_statement _ f).2 fault
    | @truncate tables table listed kept =>
        exact fault?_truncate_eq_some_iff.2
          ⟨rfl, table, listed, (isDisposable_eq_false_iff table).2 kept⟩
    | dropTable => rfl
    | dropDatabase => rfl

end Statement

/-! ## All statements of a query -/

/-- The faults that are found are those of the statements. -/
theorem mem_faults_iff {statements : List Statement} {f : SqlFault} :
    f ∈ faults statements ↔ ∃ s ∈ statements, s.HasFault f := by
  simp only [mem_faults, Statement.fault?_eq_some_iff]

/-- More statements have the same faults and perhaps more. -/
theorem faults_sublist {statements others : List Statement} (within : statements ⊆ others) :
    (faults statements).Sublist (faults others) := by
  apply List.monotone_filter_right
  intro f found
  rw [List.any_eq_true] at found ⊢
  obtain ⟨s, there, fault⟩ := found
  exact ⟨s, within there, fault⟩

/-- A query is a gap exactly if it cannot be read or holds no statement. -/
theorem checkQuery_eq_gap_iff (query : String) :
    checkQuery query = .gap .unanalyzableSql ↔
      parse? query = none ∨ parse? query = some [] := by
  cases parsed : parse? query with
  | none => simp [checkQuery, parsed]
  | some statements =>
      cases statements with
      | nil => simp [checkQuery, parsed]
      | cons s rest => simp [checkQuery, parsed]

/-- The names of the rules that a query raises, in order. -/
def raisedIds (query : String) : List String :=
  (checkQuery query).detections.map (·.rule.id)

theorem raisedIds_of_parsed {query : String} {statements : List Statement}
    (parsed : parse? query = some statements) (nonempty : statements ≠ []) :
    raisedIds query = (faults statements).map SqlFault.id := by
  rw [raisedIds, checkQuery_of_parsed parsed nonempty, Outcome.detections, List.map_map]
  rfl

/-- A query that cannot be read or holds no statement is a gap. Any other raises the faults of its
statements and no others, in the order of their names and each once, and the catalog knows them all.
With more statements none of them goes, and with the same statements in another order or number they
are the same. -/
theorem checkQuery_unites :
    (∀ query, checkQuery query = .gap .unanalyzableSql ↔
      parse? query = none ∨ parse? query = some []) ∧
    (∀ query statements, parse? query = some statements → statements ≠ [] →
      ∃ found : List SqlFault,
        checkQuery query = .analyzed (found.map fun f => ⟨f.rule, Text.trim query, none⟩) ∧
        (found.map SqlFault.id).Pairwise (· < ·) ∧
        (∀ f, f ∈ found ↔ ∃ s ∈ statements, s.HasFault f) ∧
        ∀ f ∈ found, SqlFault.ofId? f.id = some f) ∧
    ∀ query other statements others, parse? query = some statements →
      parse? other = some others → statements ≠ [] → statements ⊆ others →
        (raisedIds query).Sublist (raisedIds other) ∧
        (others ⊆ statements → raisedIds query = raisedIds other) := by
  refine ⟨checkQuery_eq_gap_iff, ?_, ?_⟩
  · intro query statements parsed nonempty
    exact ⟨faults statements, checkQuery_of_parsed parsed nonempty, ascending_faults statements,
      fun f => mem_faults_iff, fun f _ => SqlFault.ofId?_id f⟩
  · intro query other statements others parsed also_parsed nonempty within
    have more : others ≠ [] := by
      intro empty
      rw [empty] at within
      exact nonempty (List.subset_nil.1 within)
    rw [raisedIds_of_parsed parsed nonempty, raisedIds_of_parsed also_parsed more]
    have kept := faults_sublist within
    refine ⟨kept.map SqlFault.id, ?_⟩
    intro same
    rw [kept.antisymm (faults_sublist same)]

/-- Of two tables that are emptied together only one is disposable, and a drop that stands first is
raised after a deletion that stands last. -/
theorem truncate_and_more_raised :
    raisedIds "DROP TABLE a; TRUNCATE TABLE tmp_b, c.d; DELETE FROM e; DROP TABLE f" =
        ["sql.delete-no-where", "sql.drop-table", "sql.truncate"] ∧
      (raisedIds "TRUNCATE TABLE tmp_b, c.d").Sublist
        ["sql.delete-no-where", "sql.drop-table", "sql.truncate"] := by
  have one : parse? "TRUNCATE TABLE tmp_b, c.d" = some [.truncate [["tmp_b"], ["c", "d"]]] := by
    decide +kernel
  have four : parse? "DROP TABLE a; TRUNCATE TABLE tmp_b, c.d; DELETE FROM e; DROP TABLE f" =
      some [.drop .table, .truncate [["tmp_b"], ["c", "d"]], .delete none, .drop .table] := by
    decide +kernel
  have within : [Statement.truncate [["tmp_b"], ["c", "d"]]] ⊆
      [.drop .table, .truncate [["tmp_b"], ["c", "d"]], .delete none, .drop .table] := by
    simp
  have ids : raisedIds "DROP TABLE a; TRUNCATE TABLE tmp_b, c.d; DELETE FROM e; DROP TABLE f" =
      ["sql.delete-no-where", "sql.drop-table", "sql.truncate"] := by
    rw [raisedIds_of_parsed four (List.cons_ne_nil _ _)]
    decide
  have kept := (checkQuery_unites.2.2 _ _ _ _ one four (List.cons_ne_nil _ _) within).1
  rw [ids] at kept
  exact ⟨ids, kept⟩

end TraceAudit.Sql
