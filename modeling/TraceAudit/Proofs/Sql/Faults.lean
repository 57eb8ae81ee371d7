import Mathlib.Data.List.Induction
import Mathlib.Data.List.Sort
import TraceAudit.Analysis.Query

/-!
# Rules that statements break

The rules of a query are collected one statement after the other. In the end they are those of the
faults that some statement has, each once and in the order of the names of their categories.
-/

namespace TraceAudit.Sql

/-! ## Collecting rules -/

section

variable {id : String} {rule : Rule} {found : List (String × Rule)}

/-- A rule that was found stays. -/
theorem mem_addRule_of_mem {entry : String × Rule} (there : entry ∈ found) :
    entry ∈ addRule id rule found := by
  induction found with
  | nil => cases there
  | cons first rest ih =>
      unfold addRule
      split
      · exact List.mem_cons_of_mem _ there
      · split
        · exact there
        · exact List.mem_cons.2 ((List.mem_cons.1 there).imp_right ih)

/-- Nothing else is found than before, but for the rule that was added. -/
theorem eq_or_mem_of_mem_addRule {entry : String × Rule} (there : entry ∈ addRule id rule found) :
    entry = (id, rule) ∨ entry ∈ found := by
  induction found with
  | nil => exact .inl (List.mem_singleton.1 there)
  | cons first rest ih =>
      unfold addRule at there
      split at there
      · exact List.mem_cons.1 there
      · split at there
        · exact .inr there
        · rcases List.mem_cons.1 there with rfl | later
          · exact .inr List.mem_cons_self
          · exact (ih later).imp_right (List.mem_cons_of_mem first)

/-- There is a rule of a name that was added. -/
theorem exists_mem_addRule (id : String) (rule : Rule) (found : List (String × Rule)) :
    ∃ kept, (id, kept) ∈ addRule id rule found := by
  induction found with
  | nil => exact ⟨rule, List.mem_cons_self⟩
  | cons first rest ih =>
      unfold addRule
      split
      · exact ⟨rule, List.mem_cons_self⟩
      · split
        · rename_i same
          exact ⟨first.2, same ▸ List.mem_cons_self⟩
        · obtain ⟨kept, there⟩ := ih
          exact ⟨kept, List.mem_cons_of_mem first there⟩

/-- Rules stay in the order of their names. -/
theorem ascending_addRule (ascending : found.Pairwise fun a b => a.1 < b.1) :
    (addRule id rule found).Pairwise fun a b => a.1 < b.1 := by
  induction found with
  | nil => exact List.pairwise_singleton _ _
  | cons first rest ih =>
      obtain ⟨below, rest_ascending⟩ := List.pairwise_cons.1 ascending
      unfold addRule
      split
      · rename_i less
        refine List.pairwise_cons.2 ⟨fun entry there => ?_, ascending⟩
        rcases List.mem_cons.1 there with rfl | later
        · exact less
        · exact String.lt_trans less (below entry later)
      · split
        · exact ascending
        · rename_i not_less not_equal
          refine List.pairwise_cons.2 ⟨fun entry there => ?_, ih rest_ascending⟩
          rcases eq_or_mem_of_mem_addRule there with rfl | later
          · exact Decidable.byContradiction fun not_below =>
              not_equal (String.le_antisymm (String.not_lt.1 not_below) (String.not_lt.1 not_less))
          · exact below entry later

end

/-! ## Collected rules -/

/-- The faults that some statement has, each once, in the order of their names. -/
def faults (statements : List Statement) : List SqlFault :=
  SqlFault.all.filter fun f => statements.any (·.fault? == some f)

theorem mem_faults {statements : List Statement} {f : SqlFault} :
    f ∈ faults statements ↔ ∃ s ∈ statements, s.fault? = some f := by
  have listed : f ∈ SqlFault.all := by cases f <;> decide
  simp [faults, listed]

/-- Faults are listed in the order of their names, each once. -/
theorem ascending_faults (statements : List Statement) :
    ((faults statements).map SqlFault.id).Pairwise (· < ·) := by
  have all : (SqlFault.all.map SqlFault.id).Pairwise (· < ·) := by decide
  exact all.sublist (List.filter_sublist.map SqlFault.id)

/-- What is found of statements: rules in order, each that of a fault of some statement, and one for
each such fault. -/
structure Found (statements : List Statement) (found : List (String × Rule)) : Prop where
  ascending : found.Pairwise fun a b => a.1 < b.1
  of_fault : ∀ entry ∈ found, ∃ f ∈ faults statements, entry = (f.id, f.rule)
  all : ∀ f ∈ faults statements, (f.id, f.rule) ∈ found

theorem found_nil : Found [] [] where
  ascending := List.Pairwise.nil
  of_fault := fun _ impossible => absurd impossible List.not_mem_nil
  all := fun f impossible => by
    obtain ⟨_, there, _⟩ := mem_faults.1 impossible
    cases there

/-- One more statement adds the rule of its fault. -/
theorem Found.addStatement {statements : List Statement} {found : List (String × Rule)}
    (so_far : Found statements found) (s : Statement) :
    Found (statements ++ [s]) (addStatement found s) := by
  have kept {f : SqlFault} (there : f ∈ faults statements) : f ∈ faults (statements ++ [s]) := by
    obtain ⟨before, listed, fault⟩ := mem_faults.1 there
    exact mem_faults.2 ⟨before, List.mem_append_left _ listed, fault⟩
  have of_either {f : SqlFault} (there : f ∈ faults (statements ++ [s])) :
      f ∈ faults statements ∨ s.fault? = some f := by
    obtain ⟨one, listed, fault⟩ := mem_faults.1 there
    rcases List.mem_append.1 listed with before | last
    · exact .inl (mem_faults.2 ⟨one, before, fault⟩)
    · exact .inr (List.mem_singleton.1 last ▸ fault)
  unfold Sql.addStatement
  cases fault : s.fault? with
  | none =>
      refine ⟨so_far.ascending, fun entry there => ?_, fun f there => ?_⟩
      · obtain ⟨f, listed, same⟩ := so_far.of_fault entry there
        exact ⟨f, kept listed, same⟩
      · rcases of_either there with before | impossible
        · exact so_far.all f before
        · rw [fault] at impossible
          cases impossible
  | some f =>
      dsimp only
      rw [SqlFault.rule?_id]
      have here : f ∈ faults (statements ++ [s]) :=
        mem_faults.2 ⟨s, List.mem_append_right _ List.mem_cons_self, fault⟩
      have of_fault : ∀ entry ∈ addRule f.id f.rule found,
          ∃ g ∈ faults (statements ++ [s]), entry = (g.id, g.rule) := by
        intro entry there
        rcases eq_or_mem_of_mem_addRule there with rfl | before
        · exact ⟨f, here, rfl⟩
        · obtain ⟨g, listed, same⟩ := so_far.of_fault entry before
          exact ⟨g, kept listed, same⟩
      refine ⟨ascending_addRule so_far.ascending, of_fault, fun g there => ?_⟩
      rcases of_either there with before | last
      · exact mem_addRule_of_mem (so_far.all g before)
      · rw [fault] at last
        obtain rfl := Option.some.inj last
        -- The name of a fault tells its rule, so the rule that stands there is that of the fault.
        obtain ⟨rule, stands⟩ := exists_mem_addRule f.id f.rule found
        obtain ⟨g, _, same⟩ := of_fault _ stands
        obtain ⟨ids, rfl⟩ := Prod.mk.inj same
        rwa [← SqlFault.id_inj ids] at stands

theorem found_foldl (statements : List Statement) :
    Found statements (statements.foldl addStatement []) := by
  induction statements using List.reverseRecOn with
  | nil => exact found_nil
  | append_singleton statements s ih =>
      rw [List.foldl_append]
      exact ih.addStatement s

/-- The rules that statements break are those of their faults. -/
theorem brokenRules_eq (statements : List Statement) :
    brokenRules statements = (faults statements).map SqlFault.rule := by
  obtain ⟨ascending, of_fault, all⟩ := found_foldl statements
  have irrefl : Std.Irrefl fun a b : String × Rule => a.1 < b.1 :=
    ⟨fun a => String.lt_irrefl a.1⟩
  have antisymm : Std.Antisymm fun a b : String × Rule => a.1 < b.1 :=
    ⟨fun a b below above => absurd (String.lt_trans below above) (String.lt_irrefl a.1)⟩
  have also_ascending : ((faults statements).map fun f => (f.id, f.rule)).Pairwise
      fun a b => a.1 < b.1 :=
    List.pairwise_map.2 (List.pairwise_map.1 (ascending_faults statements))
  have found : statements.foldl addStatement [] =
      (faults statements).map fun f => (f.id, f.rule) := by
    refine List.Pairwise.eq_of_mem_iff ascending also_ascending fun entry => ?_
    rw [List.mem_map]
    constructor
    · intro there
      obtain ⟨f, listed, same⟩ := of_fault entry there
      exact ⟨f, listed, same.symm⟩
    · rintro ⟨f, listed, rfl⟩
      exact all f listed
  rw [brokenRules, found, List.map_map]
  rfl

/-- The outcome for a query that holds statements. -/
theorem checkQuery_of_parsed {query : String} {statements : List Statement}
    (parsed : parse? query = some statements) (nonempty : statements ≠ []) :
    checkQuery query =
      .analyzed ((faults statements).map fun f => ⟨f.rule, Text.trim query, none⟩) := by
  obtain ⟨s, rest, rfl⟩ := List.exists_cons_of_ne_nil nonempty
  rw [checkQuery, parsed]
  dsimp only
  rw [brokenRules_eq, List.map_map]
  rfl

end TraceAudit.Sql
