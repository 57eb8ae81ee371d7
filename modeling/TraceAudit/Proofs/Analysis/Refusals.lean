import TraceAudit.Proofs.Analysis.Accounting
import TraceAudit.Proofs.Trace.Ingestion

/-!
# Sources without a report

No report is made of a source that fails, nor of one that has lines that are not blank and none with
a record. Of every other source there is one, also where all lines are blank: then it has counted
nothing. Whether a source has a report is said here of the lines that it gives.
-/

namespace TraceAudit

open Delivery (Ends Fails)

namespace Tally

/-- A tally of items counts the records among them. -/
theorem records_ofItems (rules : RuleSet) (items : List Item) :
    (ofItems rules items).coverage.records = (items.filterMap Except.toOption).length := by
  refine ofItems_induction
    (motive := fun before t => t.coverage.records = (before.filterMap Except.toOption).length)
    rfl fun before item t _ counted => ?_
  rw [List.filterMap_append, List.length_append, ← counted]
  cases item with
  | ok record =>
      simp only [Tally.addItem, addOutcome, Coverage.records_addOutcome, Coverage.addRecord]
      rfl
  | error e => rfl

theorem records_ofItems_eq_zero_iff {rules : RuleSet} {items : List Item} :
    (ofItems rules items).coverage.records = 0 ↔ ∀ record, .ok record ∉ items := by
  rw [records_ofItems, List.length_eq_zero_iff, List.filterMap_eq_nil_iff]
  constructor
  · intro none_kept record there
    cases none_kept _ there
  · intro absent item there
    cases item with
    | ok record => exact absurd there (absent record)
    | error e => rfl

end Tally

/-- A source of which no report is made, and why: it fails, be it only for who asks once more after
its end, or some line of it is not blank and no line up to its end holds a record. -/
inductive Refused : List Delivery → RunError → Prop where
  | failed {source : List Delivery} {reason : String} (fails : Fails source reason) :
      Refused source (.notRead reason)
  | failedAgain {source rest : List Delivery} {seen : List Bytes} {reason : String}
      (ends : Ends source seen rest) (fails : Fails rest reason) : Refused source (.notRead reason)
  | noRecords {source rest last : List Delivery} {seen unseen : List Bytes}
      (ends : Ends source seen rest) (again : Ends rest unseen last)
      (shown : Trace.batch (seen ++ unseen) ≠ [])
      (unrecorded : ∀ record, .ok record ∉ Trace.batch seen) :
      Refused source (.noRecords (Trace.batch (seen ++ unseen)).length (Trace.batch seen).length)

/-- A source of which a report is made, and which: some line up to its end holds a record, or all
lines are blank. -/
inductive Reported (name : String) (rules : RuleSet) (tool : Tool) :
    List Delivery → Report → Prop where
  | report {source rest last : List Delivery} {seen unseen : List Bytes}
      (ends : Ends source seen rest) (again : Ends rest unseen last)
      (recorded : (∃ record, .ok record ∈ Trace.batch seen) ∨ Trace.batch (seen ++ unseen) = []) :
      Reported name rules tool source
        (.ofSummary tool ⟨name, Sha256.hexDigest (seen ++ unseen).flatten⟩ rules
          (Tally.ofItems rules (Trace.batch seen)).summary)

variable {source : List Delivery} {name : String} {rules : RuleSet} {tool : Tool}

/-- Every source is refused or has a report. -/
theorem refused_or_reported (source : List Delivery) (name : String) (rules : RuleSet)
    (tool : Tool) :
    (∃ e, Refused source e) ∨ ∃ report, Reported name rules tool source report := by
  rcases Delivery.ends_or_fails source with ⟨seen, rest, ends⟩ | ⟨reason, fails⟩
  · rcases Delivery.ends_or_fails rest with ⟨unseen, last, again⟩ | ⟨reason, fails⟩
    · by_cases recorded : ∃ record, .ok record ∈ Trace.batch seen
      · exact .inr ⟨_, .report ends again (.inl recorded)⟩
      · by_cases blank : Trace.batch (seen ++ unseen) = []
        · exact .inr ⟨_, .report ends again (.inr blank)⟩
        · exact .inl ⟨_, .noRecords ends again blank fun record there => recorded ⟨record, there⟩⟩
    · exact .inl ⟨_, .failedAgain ends fails⟩
  · exact .inl ⟨_, .failed fails⟩

theorem audit_of_refused {e : RunError} (refused : Refused source e) :
    audit source name rules tool = .error e := by
  cases refused with
  | failed fails => exact audit_of_fails (.inl fails) name rules tool
  | failedAgain ends fails => exact audit_of_fails (.inr ⟨_, _, ends, fails⟩) name rules tool
  | @noRecords _ _ seen unseen ends again shown unrecorded =>
      have none_counted : (Tally.ofItems rules (Trace.batch seen)).coverage.records = 0 :=
        Tally.records_ofItems_eq_zero_iff.2 unrecorded
      have counts := (Tally.counts_itemsFrom rules 0 seen).total
      have whole := audit_of_ends ends again name rules tool
      rw [Trace.itemsFrom_zero, none_counted, Nat.zero_add] at counts
      rw [Trace.itemsFrom_zero, Trace.itemsFrom_zero, if_pos] at whole
      · rw [whole, ← counts]
        rfl
      · exact ⟨List.length_pos_iff.2 shown, none_counted⟩

theorem audit_of_reported {report : Report} (reported : Reported name rules tool source report) :
    audit source name rules tool = .ok report := by
  cases reported with
  | report ends again recorded =>
      have whole := audit_of_ends ends again name rules tool
      rw [Trace.itemsFrom_zero, Trace.itemsFrom_zero, if_neg] at whole
      · exact whole
      · rintro ⟨shown, none_counted⟩
        rcases recorded with ⟨record, there⟩ | blank
        · exact Tally.records_ofItems_eq_zero_iff.1 none_counted record there
        · rw [blank] at shown
          exact Nat.lt_irrefl 0 shown

/-- A run comes to an error exactly on the sources that are refused for it. -/
theorem audit_eq_error_iff {e : RunError} :
    audit source name rules tool = .error e ↔ Refused source e := by
  refine ⟨fun failed => ?_, audit_of_refused⟩
  rcases refused_or_reported source name rules tool with ⟨other, refused⟩ | ⟨report, reported⟩
  · rw [audit_of_refused refused] at failed
    exact Except.error.inj failed ▸ refused
  · rw [audit_of_reported reported] at failed
    cases failed

/-- A run comes to a report exactly on the sources that have it. -/
theorem audit_eq_ok_iff {report : Report} :
    audit source name rules tool = .ok report ↔ Reported name rules tool source report := by
  refine ⟨fun done => ?_, audit_of_reported⟩
  rcases refused_or_reported source name rules tool with ⟨e, refused⟩ | ⟨other, reported⟩
  · rw [audit_of_refused refused] at done
    cases done
  · rw [audit_of_reported reported] at done
    exact Except.ok.inj done ▸ reported

end TraceAudit
