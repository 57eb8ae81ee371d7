import Mathlib.Algebra.BigOperators.Group.List.Basic
import Mathlib.Data.List.Sort
import TraceAudit.Proofs.Report.Grouping

/-!
# Summaries in closed form

What a tally arrives at step by step can be said at once: the coverage is the sum of what each step
covers, and the finding of a category is made from all detections of it. From this it follows how
two parts of a run add up, and that the order of the steps decides no more than which evidence a
finding shows, as long as detections of one category raise one rule.
-/

namespace TraceAudit

namespace NameSet

/-- Two sets with the same members are equal. -/
theorem eq_of_mem_iff {s t : NameSet} (same : ∀ name, name ∈ s ↔ name ∈ t) : s = t := by
  obtain ⟨names, ascending⟩ := s
  obtain ⟨others, also_ascending⟩ := t
  have equal : names = others := ascending.eq_of_mem_iff also_ascending same
  subst equal
  rfl

theorem mem_union {name : String} {s t : NameSet} : name ∈ s.union t ↔ name ∈ s ∨ name ∈ t := by
  rw [union, mem_foldl_insert, ← mem_def, or_comm]

theorem empty_union (s : NameSet) : empty.union s = s :=
  eq_of_mem_iff fun name => by
    rw [mem_union]
    exact or_iff_right (not_mem_empty name)

end NameSet

/-! ## Sums of coverage -/

instance : Add RoleCounts where
  add a b := ⟨a.http + b.http, a.sql + b.sql, a.redis + b.redis, a.mongo + b.mongo, a.s3 + b.s3,
    a.other + b.other⟩

instance : Add GapCounts where
  add a b := ⟨a.unknownRole + b.unknownRole, a.uncoveredHost + b.uncoveredHost,
    a.unanalyzableSql + b.unanalyzableSql⟩

/-- Coverages are added counter by counter. -/
instance : Add Coverage where
  add a b := ⟨a.records + b.records, a.unparsed + b.unparsed, a.roles + b.roles,
    a.analyzed + b.analyzed, a.notApplicable + b.notApplicable, a.gaps + b.gaps⟩

instance : Zero Coverage := ⟨.zero⟩

namespace Coverage

theorem add_def (a b : Coverage) :
    a + b = ⟨a.records + b.records, a.unparsed + b.unparsed,
      ⟨a.roles.http + b.roles.http, a.roles.sql + b.roles.sql, a.roles.redis + b.roles.redis,
        a.roles.mongo + b.roles.mongo, a.roles.s3 + b.roles.s3, a.roles.other + b.roles.other⟩,
      a.analyzed + b.analyzed, a.notApplicable + b.notApplicable,
      ⟨a.gaps.unknownRole + b.gaps.unknownRole, a.gaps.uncoveredHost + b.gaps.uncoveredHost,
        a.gaps.unanalyzableSql + b.gaps.unanalyzableSql⟩⟩ := rfl

instance : AddCommMonoid Coverage where
  add_assoc a b c := by simp only [add_def, Nat.add_assoc]
  add_comm a b := by
    rw [add_def, add_def]
    simp only [Nat.add_comm]
  zero_add a := by
    have zero : (0 : Coverage) = ⟨0, 0, ⟨0, 0, 0, 0, 0, 0⟩, 0, 0, ⟨0, 0, 0⟩⟩ := rfl
    rw [zero, add_def]
    simp only [Nat.zero_add]
  add_zero a := rfl
  nsmul := nsmulRec

end Coverage

namespace Tally

/-- What a step alone covers. -/
def Step.coverage : Step → Coverage
  | .unparsed => Coverage.zero.addUnparsed
  | .record role outcome => (Coverage.zero.addRecord role).addOutcome outcome

/-- A step adds what it covers. -/
theorem coverage_take (t : Tally) (step : Step) :
    (t.take step).coverage = t.coverage + step.coverage := by
  cases step with
  | unparsed => rfl
  | record role outcome =>
      have counted : (t.coverage.addRecord role).addOutcome outcome =
          t.coverage + (Coverage.zero.addRecord role).addOutcome outcome := by
        cases outcome with
        | gap g => rcases role with _ | _ | (_ | _ | _) | _ <;> cases g <;> rfl
        | _ => rcases role with _ | _ | (_ | _ | _) | _ <;> rfl
      exact counted

/-- A tally covers what its steps cover. -/
theorem coverage_ofSteps (steps : List Step) :
    (ofSteps steps).coverage = (steps.map Step.coverage).sum := by
  -- By induction from the last step, before which the tally is that of the steps before.
  induction steps using List.reverseRecOn with
  | nil => rfl
  | append_singleton before step ih =>
      have last : ofSteps (before ++ [step]) = (ofSteps before).take step := by
        rw [ofSteps, List.foldl_append]
        rfl
      rw [last, coverage_take, ih, List.map_append, List.sum_append, List.map_singleton,
        List.sum_singleton]

end Tally

/-! ## The finding of a category -/

namespace Finding

/-- How many records have a detection of a category. -/
def countIn (records : List (List Detection)) (id : String) : Nat :=
  records.countP fun detections => detections.any (·.rule.id == id)

/-- The subjects of the detections of a category. -/
def subjectsIn (records : List (List Detection)) (id : String) : NameSet :=
  .ofList ((records.flatten.filter (·.rule.id == id)).filterMap (·.subject))

/-- The finding that a detection opens, for all detections of its category in some records. -/
def summedUp (records : List (List Detection)) (first : Detection) : Finding :=
  { ofDetection first with
    count := countIn records first.rule.id
    subjects := subjectsIn records first.rule.id }

/-- The finding of a category in some records, if one of them has a detection of it. -/
def ofRecords? (records : List (List Detection)) (id : String) : Option Finding :=
  (records.flatten.find? (·.rule.id == id)).map (summedUp records)

/-- A finding with what another one of its category counts beside it. -/
def join (f g : Finding) : Finding :=
  { f with count := f.count + g.count, subjects := f.subjects.union g.subjects }

/-- A finding apart from its sample. -/
def withoutSample (f : Finding) : Finding :=
  { f with sample := "" }

theorem mem_subjectsIn {records : List (List Detection)} {id name : String} :
    name ∈ subjectsIn records id ↔
      ∃ d ∈ records.flatten, d.rule.id = id ∧ d.subject = some name := by
  rw [subjectsIn, NameSet.mem_ofList, List.mem_filterMap]
  constructor
  · rintro ⟨d, kept, named⟩
    obtain ⟨there, same⟩ := List.mem_filter.1 kept
    exact ⟨d, there, beq_iff_eq.1 same, named⟩
  · rintro ⟨d, there, same, named⟩
    exact ⟨d, List.mem_filter.2 ⟨there, beq_iff_eq.2 same⟩, named⟩

/-- A first detection of a category is of that category. -/
theorem id_of_find? {detections : List Detection} {id : String} {first : Detection}
    (found : detections.find? (·.rule.id == id) = some first) : first.rule.id = id := by
  have satisfied := List.find?_some found
  exact beq_iff_eq.1 satisfied

/-! ### Two parts of a run -/

theorem countIn_append (before after : List (List Detection)) (id : String) :
    countIn (before ++ after) id = countIn before id + countIn after id :=
  List.countP_append

theorem subjectsIn_append (before after : List (List Detection)) (id : String) :
    subjectsIn (before ++ after) id = (subjectsIn before id).union (subjectsIn after id) := by
  refine NameSet.eq_of_mem_iff fun name => ?_
  rw [NameSet.mem_union, mem_subjectsIn, mem_subjectsIn, mem_subjectsIn]
  simp only [List.flatten_append, List.mem_append, or_and_right, exists_or]

/-- A category without a detection is counted in no record. -/
theorem countIn_of_find?_eq_none {records : List (List Detection)} {id : String}
    (unmet : records.flatten.find? (·.rule.id == id) = none) : countIn records id = 0 := by
  refine List.countP_eq_zero.2 fun detections listed raised => ?_
  obtain ⟨d, within, same⟩ := List.any_eq_true.1 raised
  exact List.find?_eq_none.1 unmet d (List.mem_flatten_of_mem listed within) same

/-- A category without a detection has no subjects. -/
theorem subjectsIn_of_find?_eq_none {records : List (List Detection)} {id : String}
    (unmet : records.flatten.find? (·.rule.id == id) = none) : subjectsIn records id = .empty := by
  refine NameSet.eq_of_mem_iff fun name => ?_
  rw [mem_subjectsIn]
  refine iff_of_false ?_ (NameSet.not_mem_empty name)
  rintro ⟨d, there, same, _⟩
  exact List.find?_eq_none.1 unmet d there (beq_iff_eq.2 same)

/-- The finding of a category in two parts of a run is that of the first part with what the second
part counts, or that of the second part if the first has none. -/
theorem ofRecords?_append (before after : List (List Detection)) (id : String) :
    ofRecords? (before ++ after) id =
      Option.merge join (ofRecords? before id) (ofRecords? after id) := by
  unfold ofRecords?
  rw [List.flatten_append, List.find?_append]
  cases opened : before.flatten.find? (·.rule.id == id) with
  | none =>
      cases follows : after.flatten.find? (·.rule.id == id) with
      | none => rfl
      | some first =>
          obtain rfl := id_of_find? follows
          have alone : summedUp (before ++ after) first = summedUp after first := by
            unfold summedUp
            rw [countIn_append, countIn_of_find?_eq_none opened, Nat.zero_add, subjectsIn_append,
              subjectsIn_of_find?_eq_none opened, NameSet.empty_union]
          exact congrArg some alone
  | some first =>
      obtain rfl := id_of_find? opened
      have counted := countIn_append before after first.rule.id
      have united := subjectsIn_append before after first.rule.id
      cases follows : after.flatten.find? (·.rule.id == first.rule.id) with
      | none =>
          have alone : summedUp (before ++ after) first = summedUp before first := by
            unfold summedUp
            rw [counted, countIn_of_find?_eq_none follows, Nat.add_zero, united,
              subjectsIn_of_find?_eq_none follows]
            rfl
          exact congrArg some alone
      | some second =>
          have same := id_of_find? follows
          have joint : summedUp (before ++ after) first =
              (summedUp before first).join (summedUp after second) := by
            unfold summedUp join
            rw [counted, united, same]
          exact congrArg some joint

/-! ### Another order -/

/-- Detections of one category raise one rule. -/
def Coherent (detections : List Detection) : Prop :=
  ∀ d ∈ detections, ∀ e ∈ detections, d.rule.id = e.rule.id → d.rule = e.rule

theorem subjectsIn_perm {records others : List (List Detection)} (perm : records.Perm others)
    (id : String) : subjectsIn records id = subjectsIn others id := by
  refine NameSet.eq_of_mem_iff fun name => ?_
  simp only [mem_subjectsIn, perm.flatten.mem_iff]

/-- Apart from the sample, the finding of a category does not depend on the order of the records
when detections of one category raise one rule. -/
theorem ofRecords?_perm {records others : List (List Detection)} (perm : records.Perm others)
    (coherent : Coherent records.flatten) (id : String) :
    (ofRecords? records id).map withoutSample = (ofRecords? others id).map withoutSample := by
  unfold ofRecords?
  rw [Option.map_map, Option.map_map]
  cases opened : records.flatten.find? (·.rule.id == id) with
  | none =>
      have unmet : others.flatten.find? (·.rule.id == id) = none := by
        refine List.find?_eq_none.2 fun d there => ?_
        exact List.find?_eq_none.1 opened d (perm.flatten.mem_iff.2 there)
      rw [unmet]
      rfl
  | some first =>
      cases follows : others.flatten.find? (·.rule.id == id) with
      | none =>
          have there := perm.flatten.mem_iff.1 (List.mem_of_find?_eq_some opened)
          have satisfied := List.find?_some opened
          exact absurd satisfied (List.find?_eq_none.1 follows first there)
      | some second =>
          have there := perm.flatten.mem_iff.2 (List.mem_of_find?_eq_some follows)
          have rule : first.rule = second.rule :=
            coherent first (List.mem_of_find?_eq_some opened) second there
              ((id_of_find? opened).trans (id_of_find? follows).symm)
          have counted : countIn records second.rule.id = countIn others second.rule.id :=
            perm.countP_eq _
          have equal : withoutSample (summedUp records first) =
              withoutSample (summedUp others second) := by
            unfold withoutSample summedUp ofDetection
            rw [rule, counted, subjectsIn_perm perm]
          exact congrArg some equal

/-! ## Findings by lookup -/

/-- Findings in the order of their categories are determined by what is found for each category. -/
theorem Ascending.eq_of_find? {findings others : List Finding} (ascending : Ascending findings)
    (also_ascending : Ascending others) (same : ∀ id, find? findings id = find? others id) :
    findings = others := by
  have found {f : Finding} {within : List Finding} (ordered : Ascending within) :
      f ∈ within ↔ find? within f.category = some f :=
    ⟨ordered.find?_category, List.mem_of_find?_eq_some⟩
  have irrefl : Std.Irrefl fun f g : Finding => f.category < g.category :=
    ⟨fun f => String.lt_irrefl f.category⟩
  have antisymm : Std.Antisymm fun f g : Finding => f.category < g.category :=
    ⟨fun f g below above => absurd (String.lt_trans below above) (String.lt_irrefl f.category)⟩
  refine List.Pairwise.eq_of_mem_iff ascending also_ascending fun f => ?_
  rw [found ascending, found also_ascending, same]

theorem find?_map_withoutSample (findings : List Finding) (id : String) :
    find? (findings.map withoutSample) id = (find? findings id).map withoutSample := by
  rw [find?, List.find?_map]
  rfl

/-- The order of a report does not depend on samples. -/
theorem sorted_map_withoutSample (findings : List Finding) :
    (sorted findings).map withoutSample = sorted (findings.map withoutSample) :=
  List.map_mergeSort fun _ _ _ _ => rfl

/-- The order of a report does not change what is found for a category. -/
theorem Ascending.find?_sorted {findings : List Finding} (ascending : Ascending findings)
    (id : String) : find? (sorted findings) id = find? findings id := by
  have distinct (f g : Finding) (there : f ∈ findings) (also_there : g ∈ findings)
      (same : f.category = g.category) : f = g := by
    have found := ascending.find?_category there
    rw [same, ascending.find?_category also_there] at found
    exact (Option.some.inj found).symm
  cases found : find? findings id with
  | none =>
      refine List.find?_eq_none.2 fun f there => ?_
      exact List.find?_eq_none.1 found f (mem_sorted.1 there)
  | some f =>
      have there := List.mem_of_find?_eq_some found
      have satisfied := List.find?_some found
      cases kept : find? (sorted findings) id with
      | none =>
          exact absurd satisfied (List.find?_eq_none.1 kept f (mem_sorted.2 there))
      | some g =>
          have also_there := mem_sorted.1 (List.mem_of_find?_eq_some kept)
          have also_satisfied := List.find?_some kept
          have same : g.category = f.category :=
            (beq_iff_eq.1 also_satisfied).trans (beq_iff_eq.1 satisfied).symm
          rw [distinct g f also_there there same]

end Finding

namespace Tally

open Finding (find?)

/-- The finding of a category in a tally is the one that its records have at once. -/
theorem Grouped.find?_eq {records : List (List Detection)} {findings : List Finding}
    (grouped : Grouped records findings) (id : String) :
    find? findings id = Finding.ofRecords? records id := by
  have opened := grouped.opened id
  unfold Finding.ofRecords?
  cases found : find? findings id with
  | none =>
      rw [found] at opened
      generalize records.flatten.find? (·.rule.id == id) = first? at opened
      cases opened with
      | none => rfl
  | some f =>
      rw [found] at opened
      generalize first : records.flatten.find? (·.rule.id == id) = first? at opened
      cases opened with
      | @some _ d opened =>
          obtain rfl := Finding.id_of_find? first
          have subjects : f.subjects = Finding.subjectsIn records d.rule.id :=
            NameSet.eq_of_mem_iff fun name => by
              rw [grouped.subjects _ f found, Finding.mem_subjectsIn]
          have counted : f.count = Finding.countIn records d.rule.id := grouped.count _ f found
          obtain ⟨severity, category, title, count, sample, remediation, names⟩ := f
          obtain ⟨rfl, rfl, rfl, rfl, rfl⟩ := opened
          subst subjects counted
          rfl

/-- The finding of a category in a summary. -/
theorem find?_summary (steps : List Step) (id : String) :
    find? (ofSteps steps).summary.findings id =
      Finding.ofRecords? (steps.map Step.detections) id := by
  have grouped := grouped_ofSteps steps
  rw [← grouped.find?_eq]
  exact grouped.ascending.find?_sorted id

/-- A summary of steps one after the other: the coverage is the sum, and each category has the
finding of the first part with what the second part counts. -/
theorem summary_append (before after : List Step) :
    (ofSteps (before ++ after)).summary.coverage =
        (ofSteps before).summary.coverage + (ofSteps after).summary.coverage ∧
      ∀ id, find? (ofSteps (before ++ after)).summary.findings id =
        Option.merge Finding.join (find? (ofSteps before).summary.findings id)
          (find? (ofSteps after).summary.findings id) := by
  constructor
  · simp only [summary, coverage_ofSteps, List.map_append, List.sum_append]
  · intro id
    rw [find?_summary, find?_summary, find?_summary, List.map_append, Finding.ofRecords?_append]

/-- Steps in another order have a summary that differs at most in samples, when detections of one
category raise one rule. -/
theorem summary_perm {steps others : List Step} (perm : steps.Perm others)
    (coherent : Finding.Coherent (steps.map Step.detections).flatten) :
    (ofSteps steps).summary.coverage = (ofSteps others).summary.coverage ∧
      (ofSteps steps).summary.findings.map Finding.withoutSample =
        (ofSteps others).summary.findings.map Finding.withoutSample := by
  constructor
  · simp only [summary, coverage_ofSteps]
    exact (perm.map Step.coverage).sum_eq
  · have first := grouped_ofSteps steps
    have second := grouped_ofSteps others
    have ascending {findings : List Finding} (ordered : Finding.Ascending findings) :
        Finding.Ascending (findings.map Finding.withoutSample) :=
      List.pairwise_map.2 ordered
    have same : (ofSteps steps).findings.map Finding.withoutSample =
        (ofSteps others).findings.map Finding.withoutSample := by
      refine (ascending first.ascending).eq_of_find? (ascending second.ascending) fun id => ?_
      rw [Finding.find?_map_withoutSample, Finding.find?_map_withoutSample, first.find?_eq,
        second.find?_eq]
      exact Finding.ofRecords?_perm (perm.map Step.detections) coherent id
    simp only [summary, Finding.sorted_map_withoutSample, same]

end Tally
end TraceAudit
