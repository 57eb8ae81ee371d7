import TraceAudit.Proofs.Analysis.Batch
import TraceAudit.Proofs.Analysis.Outcomes

/-!
# Coverage adds up

The counters of a coverage are tied to each other: every record is counted once by its role and
once by its outcome, and each kind of outcome belongs to certain roles. A run keeps this balance
and counts every line that is not blank once, as a record or as unparsed.
-/

namespace TraceAudit

namespace Coverage

/-- The counters agree with each other. -/
structure Balanced (c : Coverage) : Prop where
  by_role : c.records =
    c.roles.http + c.roles.sql + c.roles.redis + c.roles.mongo + c.roles.s3 + c.roles.other
  by_outcome : c.records = c.analyzed + c.notApplicable + c.gaps.total
  unknown_role : c.gaps.unknownRole = c.roles.other
  unanalyzable_sql : c.gaps.unanalyzableSql ≤ c.roles.sql
  uncovered_host : c.gaps.uncoveredHost + c.notApplicable ≤ c.roles.http
  analyzed : c.analyzed = (c.roles.redis + c.roles.mongo + c.roles.s3) +
    (c.roles.sql - c.gaps.unanalyzableSql) +
    (c.roles.http - c.gaps.uncoveredHost - c.notApplicable)

theorem balanced_zero : Balanced .zero :=
  ⟨rfl, rfl, rfl, Nat.le_refl 0, Nat.le_refl 0, rfl⟩

theorem Balanced.addUnparsed {c : Coverage} (balanced : c.Balanced) : c.addUnparsed.Balanced :=
  ⟨balanced.by_role, balanced.by_outcome, balanced.unknown_role, balanced.unanalyzable_sql,
    balanced.uncovered_host, balanced.analyzed⟩

/-- A record whose outcome is one of its role keeps the counters in agreement. -/
theorem Balanced.addResult {c : Coverage} (balanced : c.Balanced) {role : Role} {outcome : Outcome}
    (fits : Outcome.OfRole role outcome) : ((c.addRecord role).addOutcome outcome).Balanced := by
  obtain ⟨by_role, by_outcome, unknown_role, unanalyzable_sql, uncovered_host, analyzed⟩ := balanced
  cases fits with
  | command store detections =>
      cases store <;> constructor <;>
        simp only [addOutcome, addRecord, RoleCounts.add] <;> omega
  | _ =>
      constructor <;>
        simp only [addOutcome, addRecord, RoleCounts.add, GapCounts.add, GapCounts.total] at * <;>
        omega

theorem records_addOutcome (c : Coverage) (outcome : Outcome) :
    (c.addOutcome outcome).records = c.records := by
  cases outcome <;> rfl

theorem unparsed_addOutcome (c : Coverage) (outcome : Outcome) :
    (c.addOutcome outcome).unparsed = c.unparsed := by
  cases outcome <;> rfl

end Coverage

/-- A record among what some lines give has a payload of its role. -/
theorem Trace.ofRole_of_mem_itemsFrom {line : Nat} {cut : List Bytes} {record : Record}
    (found : .ok record ∈ itemsFrom line cut) : Payload.OfRole record.role record.payload := by
  induction cut generalizing line with
  | nil => cases found
  | cons bytes rest ih =>
      rcases List.mem_append.1 found with here | later
      · cases content : LineContent.ofBytes bytes with
        | blank => simp [content, LineContent.item?] at here
        | notUtf8 => simp [content, LineContent.item?] at here
        | text s =>
            simp only [content, LineContent.item?, Option.toList_some,
              List.mem_singleton] at here
            exact Record.ofRole_ofLine here.symm
      · exact ih later

namespace Tally

/-- The counters of a tally agree, and they count so many items. -/
structure Counts (t : Tally) (count : Nat) : Prop where
  total : t.coverage.records + t.coverage.unparsed = count
  balanced : t.coverage.Balanced

theorem counts_empty : empty.Counts 0 :=
  ⟨rfl, Coverage.balanced_zero⟩

/-- One more item is counted once. -/
theorem Counts.addItem {t : Tally} {count : Nat} (counts : t.Counts count) (rules : RuleSet)
    {item : Item}
    (fits : ∀ record, item = .ok record → Payload.OfRole record.role record.payload) :
    (t.addItem rules item).Counts (count + 1) := by
  obtain ⟨total, balanced⟩ := counts
  cases item with
  | ok record =>
      refine ⟨?_, balanced.addResult (record.ofRole_analyze (fits record rfl) rules)⟩
      simp only [Tally.addItem, addOutcome, Coverage.records_addOutcome,
        Coverage.unparsed_addOutcome, Coverage.addRecord]
      omega
  | error e =>
      refine ⟨?_, balanced.addUnparsed⟩
      rw [← total]
      rfl

/-- A tally counts every item once. -/
theorem counts_ofItems (rules : RuleSet) {items : List Item}
    (fits : ∀ record, .ok record ∈ items → Payload.OfRole record.role record.payload) :
    (ofItems rules items).Counts items.length := by
  refine ofItems_induction (motive := fun before t => t.Counts before.length) counts_empty
    fun before item t found counts => ?_
  rw [List.length_append, List.length_singleton]
  exact counts.addItem rules fun record same => fits record (same ▸ found)

end Tally

/-- What some lines give is counted once, and the counters agree. -/
theorem Tally.counts_itemsFrom (rules : RuleSet) (line : Nat) (cut : List Bytes) :
    (ofItems rules (Trace.itemsFrom line cut)).Counts (Trace.itemsFrom line cut).length :=
  counts_ofItems rules fun _ found => Trace.ofRole_of_mem_itemsFrom found

/-- What is counted of an input is in agreement, and counts each line that is not blank once. -/
theorem Trace.counts_summary (rules : RuleSet) (input : Bytes) :
    (summary rules input).coverage.records + (summary rules input).coverage.unparsed =
      nonBlankLines input ∧ (summary rules input).coverage.Balanced := by
  have counts := Tally.counts_itemsFrom rules 0 (lines input)
  rw [length_itemsFrom] at counts
  exact ⟨counts.total, counts.balanced⟩

/-- A report accounts for every line that is not blank: it is a record or unparsed, and a record is
counted once by its role and once by its outcome. When there is no report for want of records, no
line was parsed, and there was one. -/
theorem coverage_accounts {source : List Delivery} {input : Bytes}
    (delivered : Delivers source input) (name : String) (rules : RuleSet) (tool : Tool) :
    (∀ report, audit source name rules tool = .ok report →
      report.coverage.records + report.coverage.unparsed = Trace.nonBlankLines input ∧
        report.coverage.Balanced) ∧
    ∀ nonBlank unparsed, audit source name rules tool = .error (.noRecords nonBlank unparsed) →
      nonBlank = unparsed ∧ 0 < unparsed := by
  have counts := Trace.counts_summary rules input
  constructor
  · intro report done
    rw [report_of_audit delivered done]
    exact counts
  · intro nonBlank unparsed refused
    rw [audit_delivered delivered] at refused
    split at refused
    · rename_i none_parsed
      obtain ⟨rfl, rfl⟩ : _ ∧ _ := by simpa using refused
      omega
    · cases refused

/-- One record and one line that holds none, delivered in two parts. -/
theorem two_lines_accounted :
    ∃ report,
      audit [.bytes (Text.encodeUtf8 "\x7b\"role\":\"x\"\x7d\n"), .interrupt, .bytes [0x7b]]
        "inline" .builtin ⟨"tracegate", "0.1.0", none⟩ = .ok report ∧
      report.coverage.records + report.coverage.unparsed = 2 := by
  have delivered := Delivers.chunk (Text.encodeUtf8 "\x7b\"role\":\"x\"\x7d\n")
    (.interrupt (delivers_whole [0x7b]))
  have done := audit_of_parsed delivered "inline" .builtin ⟨"tracegate", "0.1.0", none⟩
    (by decide +kernel)
  have accounts := coverage_accounts delivered "inline" .builtin ⟨"tracegate", "0.1.0", none⟩
  have lines : Trace.nonBlankLines (Text.encodeUtf8 "\x7b\"role\":\"x\"\x7d\n" ++ [0x7b]) = 2 := by
    decide +kernel
  exact ⟨_, done, (accounts.1 _ done).1.trans lines⟩

end TraceAudit
