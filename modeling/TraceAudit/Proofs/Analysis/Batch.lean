import TraceAudit.Analysis.Run
import TraceAudit.Proofs.Report.Tally
import TraceAudit.Proofs.Trace.Endings

/-!
# Runs over whole inputs

What a run gives, said of the bytes of its input instead of the source that delivers them: the
tally of the items of the input decides between a report and the error that there are no records.
-/

namespace TraceAudit

namespace Trace

/-- The detections that the records of an input yield, in order. -/
def detections (rules : RuleSet) (input : Bytes) : List Detection :=
  (records input).flatMap fun record => (record.analyze rules).detections

/-- What is counted of an input. -/
def summary (rules : RuleSet) (input : Bytes) : Summary :=
  (Tally.ofItems rules (items input)).summary

theorem mem_detections {rules : RuleSet} {input : Bytes} {d : Detection} :
    d ∈ detections rules input ↔
      ∃ record ∈ records input, d ∈ (record.analyze rules).detections :=
  List.mem_flatMap

end Trace

/-- A run on a source looks at the lines that it gives up to where it says that it has ended. The
lines that it gives to who asks once more are in the fingerprint and in the count of lines. -/
theorem audit_of_ends {source rest last : List Delivery} {seen unseen : List Bytes}
    (ends : Delivery.Ends source seen rest) (again : Delivery.Ends rest unseen last)
    (name : String) (rules : RuleSet) (tool : Tool) :
    audit source name rules tool =
      if 0 < (Trace.itemsFrom 0 (seen ++ unseen)).length ∧
          (Tally.ofItems rules (Trace.itemsFrom 0 seen)).summary.coverage.records = 0 then
        .error (.noRecords (Trace.itemsFrom 0 (seen ++ unseen)).length
          (Tally.ofItems rules (Trace.itemsFrom 0 seen)).summary.coverage.unparsed)
      else
        .ok (.ofSummary tool ⟨name, Sha256.hexDigest (seen ++ unseen).flatten⟩ rules
          (Tally.ofItems rules (Trace.itemsFrom 0 seen)).summary) := by
  unfold audit Reader.report
  rw [Reader.items_of_ends ends]
  dsimp only
  rw [Reader.finish_afterLines again]

/-- There is no report on a source that fails before it has ended, or before it ends for who asks
once more. -/
theorem audit_of_fails {source : List Delivery} {reason : String}
    (fails : Delivery.Fails source reason ∨
      ∃ seen rest, Delivery.Ends source seen rest ∧ Delivery.Fails rest reason)
    (name : String) (rules : RuleSet) (tool : Tool) :
    audit source name rules tool = .error (.notRead reason) := by
  have finished : (Reader.ofSource source).items.2.finish = .error reason := by
    rcases fails with first | ⟨seen, rest, ends, second⟩
    · have failed := Reader.failure_drain_of_fails first (r := .ofSource source) rfl rfl []
      exact Reader.finish_of_failed failed
    · rw [Reader.items_of_ends ends]
      exact Reader.finish_of_fails rfl second
  unfold audit Reader.report
  dsimp only
  rw [finished]

/-- A run gives the same on all deliveries of an input. -/
theorem audit_delivered {source : List Delivery} {input : Bytes}
    (delivered : Delivers source input) (name : String) (rules : RuleSet) (tool : Tool) :
    audit source name rules tool =
      if 0 < Trace.nonBlankLines input ∧ (Trace.summary rules input).coverage.records = 0 then
        .error (.noRecords (Trace.nonBlankLines input)
          (Trace.summary rules input).coverage.unparsed)
      else
        .ok (.ofSummary tool ⟨name, Sha256.hexDigest input⟩ rules (Trace.summary rules input)) := by
  have whole := audit_of_ends delivered.ends (.here rfl) name rules tool
  rw [List.append_nil, Trace.flatten_lines, Trace.length_itemsFrom] at whole
  exact whole

/-- The report of a run is made from the summary of its input. -/
theorem report_of_audit {source : List Delivery} {input : Bytes} {name : String}
    {rules : RuleSet} {tool : Tool} {report : Report} (delivered : Delivers source input)
    (done : audit source name rules tool = .ok report) :
    report = .ofSummary tool ⟨name, Sha256.hexDigest input⟩ rules (Trace.summary rules input) := by
  rw [audit_delivered delivered] at done
  split at done
  · cases done
  · exact (Except.ok.inj done).symm

/-- A report on any source is made of what the reader found up to the end, and of the digest that it
gave when it was finished. -/
theorem exists_digest_of_audit {source : List Delivery} {name : String} {rules : RuleSet}
    {tool : Tool} {report : Report} (done : audit source name rules tool = .ok report) :
    ∃ digest, (Reader.ofSource source).items.2.finish = .ok digest ∧
      report = .ofSummary tool ⟨name, digest.sha256⟩ rules
        (Tally.ofItems rules (Reader.ofSource source).items.1).summary := by
  unfold audit Reader.report at done
  dsimp only at done
  split at done
  · cases done
  · rename_i digest finished
    split at done
    · cases done
    · exact ⟨digest, finished, (Except.ok.inj done).symm⟩

/-- There is a report once a record was parsed. -/
theorem audit_of_parsed {source : List Delivery} {input : Bytes}
    (delivered : Delivers source input) (name : String) (rules : RuleSet) (tool : Tool)
    (parsed : (Trace.summary rules input).coverage.records ≠ 0) :
    audit source name rules tool =
      .ok (.ofSummary tool ⟨name, Sha256.hexDigest input⟩ rules (Trace.summary rules input)) := by
  rw [audit_delivered delivered, if_neg]
  exact fun none_parsed => parsed none_parsed.2

namespace Tally

/-- What holds at the start and is kept by each item holds of the tally of all items. -/
theorem ofItems_induction {rules : RuleSet} {motive : List Item → Tally → Prop}
    {items : List Item} (start : motive [] empty)
    (step : ∀ before item t, item ∈ items → motive before t →
      motive (before ++ [item]) (t.addItem rules item)) :
    motive items (ofItems rules items) := by
  have fold (before rest : List Item) (t : Tally) (within : rest ⊆ items)
      (holds : motive before t) :
      motive (before ++ rest) (rest.foldl (addItem rules) t) := by
    -- By induction on the items still to come, whatever was taken before.
    induction rest generalizing before t with
    | nil =>
        rw [List.append_nil]
        exact holds
    | cons item rest ih =>
        obtain ⟨here, within⟩ := List.cons_subset.1 within
        have later := ih (before ++ [item]) _ within (step before item t here holds)
        rw [List.append_assoc] at later
        exact later
  exact fold [] items empty (List.Subset.refl items) start

/-- The findings of a tally are opened by the first detections of their categories. -/
theorem led_ofItems (rules : RuleSet) (items : List Item) :
    Led ((items.filterMap Except.toOption).flatMap fun record =>
      (record.analyze rules).detections) (ofItems rules items).findings := by
  refine ofItems_induction (motive := fun before t => Led ((before.filterMap
    Except.toOption).flatMap fun record => (record.analyze rules).detections) t.findings)
    led_nil fun before item t _ led => ?_
  rw [List.filterMap_append, List.flatMap_append]
  cases item with
  | ok record =>
      have one : [(.ok record : Item)].filterMap Except.toOption = [record] := rfl
      rw [one, List.flatMap_singleton]
      exact led.addOutcome record.role (record.analyze rules)
  | error e =>
      have skipped : [(.error e : Item)].filterMap Except.toOption = [] := rfl
      rw [skipped, List.flatMap_nil, List.append_nil]
      exact led

end Tally
end TraceAudit
