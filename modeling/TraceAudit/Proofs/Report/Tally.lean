import TraceAudit.Report.Classification
import TraceAudit.Report.Summary

/-!
# Tallies by category

A tally keeps at most one finding for each category, and that finding is opened by the first
detection of the category: its severity, title, sample and remediation never change afterwards,
whatever detections of the category follow.
-/

namespace TraceAudit

/-- The detections of an outcome. -/
def Outcome.detections : Outcome → List Detection
  | .analyzed detections => detections
  | .notApplicable => []
  | .gap _ => []

namespace Finding

/-- A finding says what this detection says, its count and subjects apart. -/
structure OpenedBy (f : Finding) (d : Detection) : Prop where
  severity : f.severity = d.rule.severity
  category : f.category = d.rule.id
  title : f.title = d.rule.title
  sample : f.sample = sampleOf d.evidence
  remediation : f.remediation = d.rule.remediation

theorem openedBy_ofDetection (d : Detection) : (ofDetection d).OpenedBy d :=
  ⟨rfl, rfl, rfl, rfl, rfl⟩

/-- One more detection leaves what the first one said. -/
theorem OpenedBy.addDetection {f : Finding} {first : Detection} (opened : f.OpenedBy first)
    (d : Detection) (isFirst : Bool) : (f.addDetection d isFirst).OpenedBy first :=
  ⟨opened.severity, opened.category, opened.title, opened.sample, opened.remediation⟩

@[simp] theorem category_addDetection (f : Finding) (d : Detection) (isFirst : Bool) :
    (f.addDetection d isFirst).category = f.category := rfl

@[simp] theorem category_ofDetection (d : Detection) : (ofDetection d).category = d.rule.id := rfl

@[simp] theorem mem_sorted {f : Finding} {findings : List Finding} :
    f ∈ sorted findings ↔ f ∈ findings :=
  List.mem_mergeSort

/-- Findings in the order of their categories, of which no two are equal. -/
def Ascending (findings : List Finding) : Prop :=
  findings.Pairwise fun f g => f.category < g.category

/-- The finding of a category. -/
def find? (findings : List Finding) (id : String) : Option Finding :=
  findings.find? (·.category == id)

theorem find?_cons (f : Finding) (rest : List Finding) (id : String) :
    find? (f :: rest) id = if f.category = id then some f else find? rest id := by
  by_cases same : f.category = id <;> simp [find?, same]

/-- No finding is of a category below all that there are. -/
theorem find?_eq_none_of_below {findings : List Finding} {id : String}
    (below : ∀ f ∈ findings, id < f.category) : find? findings id = none := by
  refine List.find?_eq_none.2 fun f found => ?_
  rw [beq_iff_eq]
  exact fun same => String.lt_irrefl id (same ▸ below f found)

/-- Each finding is the one of its category. -/
theorem Ascending.find?_category {findings : List Finding} (ascending : Ascending findings)
    {f : Finding} (found : f ∈ findings) : find? findings f.category = some f := by
  induction findings with
  | nil => cases found
  | cons g rest ih =>
      obtain ⟨below, ascending⟩ := List.pairwise_cons.1 ascending
      rw [find?_cons]
      rcases List.mem_cons.1 found with rfl | later
      · rw [if_pos rfl]
      · have other : g.category ≠ f.category := fun same =>
          String.lt_irrefl g.category (same ▸ below f later)
        rw [if_neg other, ih ascending later]

end Finding

namespace Tally

open Finding (Ascending find? find?_cons find?_eq_none_of_below)

/-- A category is met after a detection only if it was before, or is the detection's. -/
theorem category_of_mem_addDetection {d : Detection} {isFirst : Bool} {findings : List Finding}
    {f : Finding} (found : f ∈ addDetection d isFirst findings) :
    f.category = d.rule.id ∨ ∃ g ∈ findings, f.category = g.category := by
  induction findings with
  | nil =>
      rw [addDetection, List.mem_singleton] at found
      exact .inl (by simp [found])
  | cons g rest ih =>
      unfold addDetection at found
      split at found
      · rcases List.mem_cons.1 found with rfl | kept
        · exact .inl rfl
        · exact .inr ⟨f, kept, rfl⟩
      · split at found
        · rcases List.mem_cons.1 found with rfl | kept
          · exact .inr ⟨g, List.mem_cons_self, rfl⟩
          · exact .inr ⟨f, List.mem_cons_of_mem g kept, rfl⟩
        · rcases List.mem_cons.1 found with rfl | later
          · exact .inr ⟨f, List.mem_cons_self, rfl⟩
          · rcases ih later with same | ⟨h, kept, same⟩
            · exact .inl same
            · exact .inr ⟨h, List.mem_cons_of_mem g kept, same⟩

theorem ascending_addDetection (d : Detection) (isFirst : Bool) {findings : List Finding}
    (ascending : Ascending findings) : Ascending (addDetection d isFirst findings) := by
  induction findings with
  | nil => exact List.pairwise_singleton _ _
  | cons g rest ih =>
      obtain ⟨below, rest_ascending⟩ := List.pairwise_cons.1 ascending
      unfold addDetection
      split
      · rename_i less
        refine List.pairwise_cons.2 ⟨fun f found => ?_, ascending⟩
        rcases List.mem_cons.1 found with rfl | later
        · exact less
        · exact String.lt_trans less (below f later)
      · split
        · exact List.pairwise_cons.2 ⟨below, rest_ascending⟩
        · rename_i notLess notEqual
          refine List.pairwise_cons.2 ⟨fun f found => ?_, ih rest_ascending⟩
          rcases category_of_mem_addDetection found with same | ⟨h, kept, same⟩
          · rw [same]
            exact Decidable.byContradiction fun notAbove =>
              notEqual (String.le_antisymm (String.not_lt.1 notAbove) (String.not_lt.1 notLess))
          · rw [same]
            exact below h kept

/-- A detection changes the finding of its category, or opens it, and no other. -/
theorem find?_addDetection (d : Detection) (isFirst : Bool) {findings : List Finding}
    (ascending : Ascending findings) (id : String) :
    find? (addDetection d isFirst findings) id =
      if d.rule.id = id then
        some (((find? findings id).getD (.ofDetection d)).addDetection d isFirst)
      else find? findings id := by
  induction findings with
  | nil => simp [addDetection, find?]
  | cons g rest ih =>
      obtain ⟨below, rest_ascending⟩ := List.pairwise_cons.1 ascending
      unfold addDetection
      split
      · rename_i less
        rw [find?_cons]
        by_cases same : d.rule.id = id
        · have absent : find? (g :: rest) id = none := find?_eq_none_of_below fun f found => by
            rcases List.mem_cons.1 found with rfl | later
            · exact same ▸ less
            · exact String.lt_trans (same ▸ less) (below f later)
          simp [same, absent]
        · simp [same]
      · split
        · rename_i equal
          by_cases same : d.rule.id = id
          · simp [find?_cons, ← equal, same]
          · simp [find?_cons, ← equal, same]
        · rename_i notEqual
          rw [find?_cons, find?_cons, ih rest_ascending]
          by_cases same : d.rule.id = id
          · have other : g.category ≠ id := fun h => notEqual (same.trans h.symm)
            simp [same, other]
          · simp [same]

/-- The findings of some detections: one for each category, opened by the first detection of it. -/
structure Led (detections : List Detection) (findings : List Finding) : Prop where
  ascending : Ascending findings
  opened : ∀ id, Option.Rel Finding.OpenedBy (find? findings id)
    (detections.find? (·.rule.id == id))

theorem led_nil : Led [] [] :=
  ⟨List.Pairwise.nil, fun _ => .none⟩

/-- One more detection either opens a finding or leaves the one that was opened. -/
theorem Led.addDetection {detections : List Detection} {findings : List Finding}
    (led : Led detections findings) (d : Detection) (isFirst : Bool) :
    Led (detections ++ [d]) (Tally.addDetection d isFirst findings) := by
  refine ⟨ascending_addDetection d isFirst led.ascending, fun id => ?_⟩
  rw [find?_addDetection d isFirst led.ascending, List.find?_append]
  have opened := led.opened id
  generalize find? findings id = kept at opened ⊢
  generalize detections.find? (·.rule.id == id) = first at opened ⊢
  by_cases same : d.rule.id = id
  · rw [if_pos same]
    cases opened with
    | none =>
        have found : [d].find? (·.rule.id == id) = some d := by simp [same]
        rw [Option.none_or, found]
        exact .some ((Finding.openedBy_ofDetection d).addDetection d isFirst)
    | some kept => exact .some (kept.addDetection d isFirst)
  · rw [if_neg same]
    have other : [d].find? (·.rule.id == id) = none := by simp [same]
    rw [other, Option.or_none]
    exact opened

theorem Led.addDetections {detections : List Detection} {findings : List Finding}
    (led : Led detections findings) (seen : List String) (more : List Detection) :
    Led (detections ++ more) (Tally.addDetections seen findings more) := by
  induction more generalizing detections findings seen with
  | nil => simpa [Tally.addDetections] using led
  | cons d rest ih =>
      have step := ih (led.addDetection d (!seen.contains d.rule.id)) (d.rule.id :: seen)
      simpa [Tally.addDetections] using step

theorem Led.addOutcome {detections : List Detection} {t : Tally}
    (led : Led detections t.findings) (role : Role) (outcome : Outcome) :
    Led (detections ++ outcome.detections) (t.addOutcome role outcome).findings := by
  cases outcome with
  | analyzed more => exact led.addDetections [] more
  | notApplicable => simpa [Outcome.detections, Tally.addOutcome] using led
  | gap g => simpa [Outcome.detections, Tally.addOutcome] using led

end Tally

namespace Severity

theorem max_eq_blocker_iff (a b : Severity) :
    a.max b = blocker ↔ a = blocker ∨ b = blocker := by
  cases a <;> cases b <;> decide

/-- The worst of some severities is the one that blocks exactly if it is among them. -/
theorem worst?_eq_blocker_iff (severities : List Severity) :
    worst? severities = some blocker ↔ blocker ∈ severities := by
  have fold (worst : Option Severity) :
      severities.foldl (fun worst s => some (worst.elim s (·.max s))) worst = some blocker ↔
        worst = some blocker ∨ blocker ∈ severities := by
    induction severities generalizing worst with
    | nil => simp
    | cons s rest ih =>
        rw [List.foldl_cons, ih, List.mem_cons]
        cases worst with
        | none => simp only [Option.elim_none, Option.some.injEq, reduceCtorEq, false_or,
            eq_comm (a := s)]
        | some w => simp only [Option.elim_some, Option.some.injEq, max_eq_blocker_iff, or_assoc,
            eq_comm (a := s)]
  simpa [worst?] using fold none

end Severity

/-- A verdict fails the run exactly if some finding blocks. -/
theorem Classification.exitCode_ofFindings (findings : List Finding) :
    (ofFindings findings).exitCode = 2 ↔ ∃ f ∈ findings, f.severity = .blocker := by
  have level (worst : Option Severity) :
      (Level.ofWorst worst).exitCode = 2 ↔ worst = some .blocker := by
    rcases worst with _ | (_ | _ | _) <;> decide
  rw [ofFindings, level, Severity.worst?_eq_blocker_iff, List.mem_map]

end TraceAudit
