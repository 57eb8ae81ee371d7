import Mathlib.Data.List.Induction
import Mathlib.Logic.ExistsUnique
import TraceAudit.Proofs.Report.Tally
import TraceAudit.Rules.Catalog

/-!
# Tallies as groups

The findings of a tally are a grouping of all detections by category: there is one for each category
met, it counts the records that have a detection of the category, it has the subjects of all these
detections, and it says otherwise what the first of them says. A summary lists them strictly in the
order of a report. This holds of any steps taken in any order, so also after each of them.
-/

namespace TraceAudit

theorem Severity.rank_inj {a b : Severity} : a.rank = b.rank ↔ a = b := by
  cases a <;> cases b <;> decide

namespace Tally

/-- What a tally takes into account: a line that holds no record, or the outcome for a record. -/
inductive Step where
  | unparsed
  | record (role : Role) (outcome : Outcome)

/-- The detections of a step. -/
def Step.detections : Step → List Detection
  | .unparsed => []
  | .record _ outcome => outcome.detections

/-- Takes a step into account. -/
def take (t : Tally) : Step → Tally
  | .unparsed => t.addUnparsed
  | .record role outcome => t.addOutcome role outcome

/-- The tally of some steps. -/
def ofSteps (steps : List Step) : Tally :=
  steps.foldl take empty

end Tally

namespace Finding

/-- A finding that sums up the detections of its category, given by record. -/
structure SumsUp (f : Finding) (records : List (List Detection)) : Prop where
  opened : ∃ first, records.flatten.find? (·.rule.id == f.category) = some first ∧ f.OpenedBy first
  count : f.count = records.countP fun detections => detections.any (·.rule.id == f.category)
  subjects : ∀ name, name ∈ f.subjects ↔
    ∃ d ∈ records.flatten, d.rule.id = f.category ∧ d.subject = some name

/-- One more detection adds its subject, if it has one. -/
theorem mem_subjects_addDetection (f : Finding) (d : Detection) (isFirst : Bool) (name : String) :
    name ∈ (f.addDetection d isFirst).subjects ↔ name ∈ f.subjects ∨ d.subject = some name := by
  unfold addDetection
  cases d.subject with
  | none => simp
  | some subject => simp [or_comm, eq_comm]

/-! ## The order of a report -/

/-- A finding comes before another in a report: it is worse, or as bad and of a lower category. -/
def Before (f g : Finding) : Prop :=
  g.severity.rank < f.severity.rank ∨ f.severity = g.severity ∧ f.category < g.category

theorem precedes_iff (f g : Finding) :
    f.precedes g = true ↔
      g.severity.rank < f.severity.rank ∨ f.severity = g.severity ∧ f.category ≤ g.category := by
  unfold precedes
  by_cases same : f.severity = g.severity <;> simp [same]

theorem precedes_trans (f g h : Finding) (first : f.precedes g = true)
    (second : g.precedes h = true) : f.precedes h = true := by
  rw [precedes_iff] at *
  rw [← Severity.rank_inj] at *
  rcases first with worse | ⟨same, below⟩
  · rcases second with worse' | ⟨same', _⟩
    · exact .inl (Nat.lt_trans worse' worse)
    · exact .inl (same' ▸ worse)
  · rcases second with worse' | ⟨same', below'⟩
    · exact .inl (same ▸ worse')
    · exact .inr ⟨same.trans same', String.le_trans below below'⟩

theorem precedes_total (f g : Finding) : (f.precedes g || g.precedes f) = true := by
  rw [Bool.or_eq_true, precedes_iff, precedes_iff, ← Severity.rank_inj, ← Severity.rank_inj]
  rcases Nat.lt_trichotomy f.severity.rank g.severity.rank with less | same | greater
  · exact .inr (.inl less)
  · rcases String.le_total f.category g.category with below | above
    · exact .inl (.inr ⟨same, below⟩)
    · exact .inr (.inr ⟨same.symm, above⟩)
  · exact .inl (.inl greater)

/-- Sorting keeps categories distinct. -/
theorem distinct_sorted {findings : List Finding} (ascending : Ascending findings) :
    (sorted findings).Pairwise fun f g => f.category ≠ g.category := by
  have apart : findings.Pairwise fun f g => f.category ≠ g.category :=
    ascending.imp fun below => String.ne_of_lt below
  exact apart.perm (List.mergeSort_perm findings precedes).symm Ne.symm

/-- Findings of distinct categories are sorted strictly. -/
theorem before_sorted {findings : List Finding} (ascending : Ascending findings) :
    (sorted findings).Pairwise Before := by
  have ordered : (sorted findings).Pairwise fun f g => f.precedes g = true :=
    List.pairwise_mergeSort precedes_trans precedes_total findings
  refine ordered.imp₂ (fun f g precedes other => ?_) (distinct_sorted ascending)
  rcases (precedes_iff f g).1 precedes with worse | ⟨same, below⟩
  · exact .inl worse
  · refine .inr ⟨same, String.not_le.1 fun above => other ?_⟩
    exact String.le_antisymm below above

end Finding

namespace Tally

open Finding (Ascending find?)

/-! ## One record after the other -/

/-- The findings of the detections of some records: each sums up the detections of its category. -/
structure Grouped (records : List (List Detection)) (findings : List Finding) : Prop
    extends Led records.flatten findings where
  count : ∀ id f, find? findings id = some f →
    f.count = records.countP fun detections => detections.any (·.rule.id == id)
  subjects : ∀ id f, find? findings id = some f → ∀ name, name ∈ f.subjects ↔
    ∃ d ∈ records.flatten, d.rule.id = id ∧ d.subject = some name

theorem grouped_nil : Grouped [] [] where
  toLed := led_nil
  count _ _ impossible := nomatch impossible
  subjects _ _ impossible := nomatch impossible

/-- A record without detections changes nothing. -/
theorem Grouped.addRecord {records : List (List Detection)} {findings : List Finding}
    (grouped : Grouped records findings) : Grouped (records ++ [[]]) findings := by
  have flat : (records ++ [[]]).flatten = records.flatten := by simp
  refine ⟨flat ▸ grouped.toLed, fun id f found => ?_, fun id f found => ?_⟩
  · rw [grouped.count id f found]
    simp
  · rw [flat]
    exact grouped.subjects id f found

/-- A category that has no finding has no detection. -/
theorem Grouped.unmet {records : List (List Detection)} {findings : List Finding}
    (grouped : Grouped records findings) {id : String} (absent : find? findings id = none) :
    ∀ detections ∈ records, ∀ d ∈ detections, d.rule.id ≠ id := by
  intro detections listed d raised same
  have opened := grouped.opened id
  rw [absent] at opened
  generalize first : records.flatten.find? (·.rule.id == id) = found at opened
  cases opened with
  | none =>
      have there := List.mem_flatten_of_mem listed raised
      exact List.find?_eq_none.1 first d there (by simp [same])

/-- The finding that one more detection goes into: the one of its category, or a new one. -/
theorem Grouped.getD {records : List (List Detection)} {findings : List Finding}
    (grouped : Grouped records findings) (d : Detection) :
    ((find? findings d.rule.id).getD (.ofDetection d)).count =
        records.countP (fun detections => detections.any (·.rule.id == d.rule.id)) ∧
      ∀ name, name ∈ ((find? findings d.rule.id).getD (.ofDetection d)).subjects ↔
        ∃ e ∈ records.flatten, e.rule.id = d.rule.id ∧ e.subject = some name := by
  cases found : find? findings d.rule.id with
  | some f => exact ⟨grouped.count _ f found, grouped.subjects _ f found⟩
  | none =>
      have unmet := grouped.unmet found
      constructor
      · refine (List.countP_eq_zero.2 fun detections listed => ?_).symm
        simpa using unmet detections listed
      · intro name
        refine iff_of_false (NameSet.not_mem_empty name) ?_
        rintro ⟨e, raised, same, _⟩
        obtain ⟨detections, listed, within⟩ := List.mem_flatten.1 raised
        exact unmet detections listed e within same

/-- One more detection of the last record. It counts if it is the first one of its category in that
record. -/
theorem Grouped.addDetection {records : List (List Detection)} {current : List Detection}
    {findings : List Finding} (grouped : Grouped (records ++ [current]) findings) (d : Detection) :
    Grouped (records ++ [current ++ [d]])
      (Tally.addDetection d (!current.any (·.rule.id == d.rule.id)) findings) := by
  have flat : (records ++ [current ++ [d]]).flatten = (records ++ [current]).flatten ++ [d] := by
    simp
  have find_eq := find?_addDetection d (!current.any (·.rule.id == d.rule.id)) grouped.ascending
  refine ⟨flat ▸ grouped.toLed.addDetection d _, fun id f found => ?_, fun id f found => ?_⟩
  · rw [find_eq] at found
    split at found
    · rename_i same
      subst same
      obtain rfl := Option.some.inj found
      have before := (grouped.getD d).1
      rw [Finding.addDetection, before]
      cases met : current.any (·.rule.id == d.rule.id) <;> simp [List.countP_append, met]
    · rename_i other
      rw [grouped.count id f found]
      simp [List.countP_append, other]
  · intro name
    have split_last : (∃ e ∈ (records ++ [current ++ [d]]).flatten,
        e.rule.id = id ∧ e.subject = some name) ↔
        (∃ e ∈ (records ++ [current]).flatten, e.rule.id = id ∧ e.subject = some name) ∨
          d.rule.id = id ∧ d.subject = some name := by
      rw [flat]
      simp only [List.mem_append, List.mem_singleton, or_and_right, exists_or, exists_eq_left]
    rw [split_last]
    rw [find_eq] at found
    split at found
    · rename_i same
      subst same
      obtain rfl := Option.some.inj found
      rw [Finding.mem_subjects_addDetection, (grouped.getD d).2 name]
      simp
    · rename_i other
      rw [grouped.subjects id f found]
      simp [other]

/-- All further detections of the last record, when its categories so far are those seen. -/
theorem Grouped.addDetections {records : List (List Detection)} {current : List Detection}
    {findings : List Finding} (grouped : Grouped (records ++ [current]) findings)
    (more : List Detection) :
    Grouped (records ++ [current ++ more])
      (Tally.addDetections (current.reverse.map (·.rule.id)) findings more) := by
  induction more generalizing current findings with
  | nil =>
      rw [List.append_nil]
      exact grouped
  | cons d rest ih =>
      have seen : (current.reverse.map (·.rule.id)).contains d.rule.id =
          current.any (·.rule.id == d.rule.id) := by
        rw [Bool.eq_iff_iff]
        simp
      have later := ih (grouped.addDetection d)
      rw [Tally.addDetections, seen]
      simpa using later

/-- One more step. -/
theorem Grouped.take {records : List (List Detection)} {t : Tally}
    (grouped : Grouped records t.findings) (step : Step) :
    Grouped (records ++ [step.detections]) (t.take step).findings := by
  cases step with
  | unparsed => exact grouped.addRecord
  | record role outcome =>
      cases outcome with
      | analyzed detections => exact grouped.addRecord.addDetections detections
      | notApplicable => exact grouped.addRecord
      | gap g => exact grouped.addRecord

/-- The findings of any steps are those of their detections. -/
theorem grouped_ofSteps (steps : List Step) :
    Grouped (steps.map Step.detections) (ofSteps steps).findings := by
  -- By induction from the last step, before which the tally is that of the steps before.
  induction steps using List.reverseRecOn with
  | nil => exact grouped_nil
  | append_singleton before step ih =>
      rw [ofSteps, List.foldl_append, List.map_append]
      exact ih.take step

/-- Each finding sums up the detections of its category. -/
theorem Grouped.sumsUp {records : List (List Detection)} {findings : List Finding}
    (grouped : Grouped records findings) {f : Finding} (there : f ∈ findings) :
    f.SumsUp records := by
  have found := grouped.ascending.find?_category there
  refine ⟨?_, grouped.count _ f found, grouped.subjects _ f found⟩
  have opened := grouped.opened f.category
  rw [found] at opened
  generalize first : records.flatten.find? (·.rule.id == f.category) = d? at opened
  cases opened with
  | @some _ d opened => exact ⟨d, rfl, opened⟩

/-- There is exactly one finding for the category of each detection. -/
theorem Grouped.existsUnique {records : List (List Detection)} {findings : List Finding}
    (grouped : Grouped records findings) {d : Detection} (raised : d ∈ records.flatten) :
    ∃! f, f ∈ findings ∧ f.category = d.rule.id := by
  cases found : find? findings d.rule.id with
  | none =>
      obtain ⟨detections, listed, within⟩ := List.mem_flatten.1 raised
      exact absurd rfl (grouped.unmet found detections listed d within)
  | some f =>
      have satisfied := List.find?_some found
      refine ⟨f, ⟨List.mem_of_find?_eq_some found, beq_iff_eq.1 satisfied⟩, ?_⟩
      rintro g ⟨there, same⟩
      have also := grouped.ascending.find?_category there
      rw [same, found] at also
      exact (Option.some.inj also).symm

/-- The summary of any steps has exactly one finding for each category met, each sums up the
detections of its category, and they are strictly in the order of a report. -/
theorem summary_groups (steps : List Step) :
    (ofSteps steps).summary.findings.Pairwise Finding.Before ∧
    (∀ d ∈ (steps.map Step.detections).flatten,
      ∃! f, f ∈ (ofSteps steps).summary.findings ∧ f.category = d.rule.id) ∧
    ∀ f ∈ (ofSteps steps).summary.findings, f.SumsUp (steps.map Step.detections) := by
  have grouped := grouped_ofSteps steps
  refine ⟨Finding.before_sorted grouped.ascending, fun d raised => ?_, fun f there => ?_⟩
  · simp only [summary, Finding.mem_sorted]
    exact grouped.existsUnique raised
  · exact grouped.sumsUp (Finding.mem_sorted.1 there)

/-- A record that raises one rule twice, with one subject, then a line that holds none, and then a
record that raises the rule with another subject. -/
def repeatedSteps : List Step := [
  .record .http (.analyzed [⟨paymentRule, "first", none⟩, ⟨paymentRule, "second", some "stripe"⟩]),
  .unparsed,
  .record .http (.analyzed [⟨paymentRule, "third", some "adyen"⟩])]

/-- The finding of these steps counts two records and has both subjects. -/
theorem repeatedSteps_count :
    ∃ f ∈ (ofSteps repeatedSteps).summary.findings,
      f.count = 2 ∧ "adyen" ∈ f.subjects ∧ "stripe" ∈ f.subjects := by
  obtain ⟨_, unique, sums⟩ := summary_groups repeatedSteps
  obtain ⟨f, ⟨there, same⟩, _⟩ := unique ⟨paymentRule, "first", none⟩ (by decide)
  have summed := sums f there
  refine ⟨f, there, ?_, (summed.subjects "adyen").2 ?_, (summed.subjects "stripe").2 ?_⟩
  · rw [summed.count, same]
    decide
  · rw [same]
    decide
  · rw [same]
    decide

end Tally
end TraceAudit
