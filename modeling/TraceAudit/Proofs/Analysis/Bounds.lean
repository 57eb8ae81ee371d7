import TraceAudit.Proofs.Analysis.LineByLine
import TraceAudit.Proofs.Analysis.Outcomes
import TraceAudit.Proofs.Report.Samples
import TraceAudit.Proofs.Rules.Merge

/-!
# Reports within the tables

However long a trace is and whatever it holds, a report says no more than the rules allow for. Its
categories are those of the fixed rules and of the commands in the table, each met once at most; its
subjects are vendors of the table and stores; a finding counts no more records than were read, and
its sample is short. So there is a bound on the findings that depends on the table alone.
-/

namespace TraceAudit

open Tally (Step)

/-! ## Which subjects a category has -/

namespace Detection

variable {rules : RuleSet} {d : Detection}

/-- What is raised under the category of payments is about a vendor of the table. -/
theorem IsUnder.vendor_of_payment (under : d.IsUnder rules) (sound : rules.SoundCommands)
    (category : d.rule.id = paymentRule.id) {name : String} (about : d.subject = some name) :
    ∃ v ∈ rules.vendors, name = v.provider := by
  cases under with
  | payment call listed values => exact ⟨_, listed, (Option.some.inj about).symm⟩
  | query fault evidence => cases about
  | command store listed evidence =>
      have fixed : Rule.IsFixed paymentRule := .inl rfl
      have same : CommandRule.category _ = paymentRule.id := category
      exact absurd (same ▸ fixed.id_mem) (sound.category_not_mem listed)

/-- What is raised under the category of a command is about a store. -/
theorem IsUnder.store_of_command (under : d.IsUnder rules) (sound : rules.SoundCommands)
    {entry : CommandRule} (listed : entry ∈ rules.commands) (category : d.rule.id = entry.category)
    {name : String} (about : d.subject = some name) : ∃ store : Store, name = store.name := by
  have other := sound.category_not_mem listed
  rw [← category] at other
  cases under with
  | payment call there values => exact absurd (Rule.IsFixed.id_mem (.inl rfl)) other
  | query fault evidence => exact absurd (Rule.IsFixed.id_mem (.inr ⟨fault, rfl⟩)) other
  | command store there evidence => exact ⟨store, (Option.some.inj about).symm⟩

/-- What is raised under the category of a fault of a query has no subject. -/
theorem IsUnder.no_subject_of_fault (under : d.IsUnder rules) (sound : rules.SoundCommands)
    {fault : SqlFault} (category : d.rule.id = fault.id) : d.subject = none := by
  cases under with
  | payment call listed values =>
      have other : paymentRule.id ≠ fault.id := by cases fault <;> decide
      exact absurd category other
  | query found evidence => rfl
  | command store listed evidence =>
      have fixed : Rule.IsFixed fault.rule := .inr ⟨fault, rfl⟩
      have same : CommandRule.category _ = fault.id := category
      exact absurd (same ▸ fixed.id_mem) (sound.category_not_mem listed)

end Detection

/-! ## How often a category counts -/

namespace Tally

/-- Whether a step is that of a record. -/
def Step.isRecord : Step → Bool
  | .unparsed => false
  | .record _ _ => true

/-- The records of a tally are its steps of records. -/
theorem records_ofSteps (steps : List Step) :
    (ofSteps steps).coverage.records = steps.countP Step.isRecord := by
  -- By induction from the last step, before which the tally is that of the steps before.
  induction steps using List.reverseRecOn with
  | nil => rfl
  | append_singleton before step ih =>
      have last : ofSteps (before ++ [step]) = (ofSteps before).take step := by
        rw [ofSteps, List.foldl_append]
        rfl
      rw [last, coverage_take, List.countP_append, ← ih, List.countP_singleton]
      cases step with
      | unparsed => rfl
      | record role outcome => cases outcome <;> rfl

/-- A finding counts at least one record, and no more than were read. -/
theorem count_of_mem_summary {steps : List Step} {f : Finding}
    (there : f ∈ (ofSteps steps).summary.findings) :
    1 ≤ f.count ∧ f.count ≤ (ofSteps steps).coverage.records := by
  obtain ⟨⟨first, leads, opened⟩, count, _⟩ := (summary_groups steps).2.2 f there
  rw [count]
  constructor
  · obtain ⟨detections, listed, within⟩ := List.mem_flatten.1 (List.mem_of_find?_eq_some leads)
    refine List.countP_pos_iff.2 ⟨detections, listed, List.any_eq_true.2 ⟨first, within, ?_⟩⟩
    rw [opened.category]
    exact beq_self_eq_true first.rule.id
  · rw [records_ofSteps, List.countP_map]
    refine List.countP_mono_left fun step _ raised => ?_
    cases step with
    | unparsed => cases raised
    | record role outcome => rfl

end Tally

/-! ## Reports -/

/-- A report that says no more than the rules allow for. -/
structure Report.IsWithin (r : Report) (rules : RuleSet) : Prop where
  category : ∀ f ∈ r.findings,
    f.category ∈ builtinCategories ∨ ∃ entry ∈ rules.commands, f.category = entry.category
  subject : ∀ f ∈ r.findings, ∀ name ∈ f.subjects,
    (∃ v ∈ rules.vendors, name = v.provider) ∨ ∃ store : Store, name = store.name
  payment : ∀ f ∈ r.findings, f.category = paymentRule.id →
    ∀ name ∈ f.subjects, ∃ v ∈ rules.vendors, name = v.provider
  command : ∀ f ∈ r.findings, ∀ entry ∈ rules.commands, f.category = entry.category →
    ∀ name ∈ f.subjects, ∃ store : Store, name = store.name
  query : ∀ f ∈ r.findings, ∀ fault : SqlFault, f.category = fault.id → f.subjects = .empty
  count : ∀ f ∈ r.findings, 1 ≤ f.count ∧ f.count ≤ r.coverage.records
  sample : ∀ f ∈ r.findings, f.sample.length ≤ 200
  distinct : r.findings.Pairwise fun f g => f.category ≠ g.category
  ordered : r.findings.Pairwise Finding.Before

/-- The findings are no more than the fixed categories and the commands of the table. -/
theorem Report.IsWithin.length_findings_le {r : Report} {rules : RuleSet}
    (within : r.IsWithin rules) : r.findings.length ≤ 8 + rules.commands.length := by
  have distinct : (r.findings.map Finding.category).Nodup :=
    List.pairwise_map.2 within.distinct
  have listed : r.findings.map Finding.category ⊆
      builtinCategories ++ rules.commands.map CommandRule.category := by
    intro id met
    obtain ⟨f, there, rfl⟩ := List.mem_map.1 met
    refine List.mem_append.2 ((within.category f there).imp_right ?_)
    rintro ⟨entry, stands, same⟩
    exact same ▸ List.mem_map_of_mem stands
  have bounded := (List.subperm_of_subset distinct listed).length_le
  rw [List.length_append, List.length_map, List.length_map] at bounded
  exact bounded

/-- What a tally of items sums up says no more than the rules allow for. -/
theorem Tally.isWithin_summary {rules : RuleSet} (sound : rules.SoundCommands)
    (items : List Item) (tool : Tool) (input : InputInfo) :
    (Report.ofSummary tool input rules (ofItems rules items).summary).IsWithin rules := by
  rw [ofItems_eq_ofSteps]
  obtain ⟨ordered, _, sums⟩ := summary_groups (items.map (Item.step rules))
  have under {d : Detection}
      (raised : d ∈ ((items.map (Item.step rules)).map Step.detections).flatten) :
      d.IsUnder rules := by
    obtain ⟨record, raised⟩ := Item.exists_record_of_mem_steps raised
    exact record.isUnder_of_analyze raised
  constructor
  case category =>
    intro f there
    obtain ⟨⟨first, leads, opened⟩, _, _⟩ := sums f there
    obtain ⟨record, raised⟩ := Item.exists_record_of_mem_steps (List.mem_of_find?_eq_some leads)
    rw [opened.category]
    rcases record.rule_of_analyze raised with fixed | ⟨entry, listed, from_entry⟩
    · exact .inl fixed.id_mem
    · exact .inr ⟨entry, listed, from_entry ▸ rfl⟩
  case subject =>
    intro f there name listed
    obtain ⟨d, raised, _, about⟩ := ((sums f there).subjects name).1 listed
    obtain ⟨record, raised⟩ := Item.exists_record_of_mem_steps raised
    exact record.subject_of_analyze raised about
  case payment =>
    intro f there category name listed
    obtain ⟨d, raised, same, about⟩ := ((sums f there).subjects name).1 listed
    exact (under raised).vendor_of_payment sound (same.trans category) about
  case command =>
    intro f there entry stands category name listed
    obtain ⟨d, raised, same, about⟩ := ((sums f there).subjects name).1 listed
    exact (under raised).store_of_command sound stands (same.trans category) about
  case query =>
    intro f there fault category
    refine NameSet.eq_of_mem_iff fun name => iff_of_false ?_ (NameSet.not_mem_empty name)
    intro listed
    obtain ⟨d, raised, same, about⟩ := ((sums f there).subjects name).1 listed
    have none := (under raised).no_subject_of_fault sound (same.trans category)
    rw [none] at about
    cases about
  case count =>
    exact fun f there => count_of_mem_summary there
  case sample =>
    intro f there
    obtain ⟨⟨first, _, opened⟩, _, _⟩ := sums f there
    rw [opened.sample]
    exact Finding.length_sampleOf_le first.evidence
  case distinct =>
    exact Finding.distinct_sorted (grouped_ofSteps _).ascending
  case ordered =>
    exact ordered

/-- A report on any source says no more than the rules of an accepted document allow for, and has
no more findings than eight and one for each command of the table. The rules of the library are
those of the empty document. -/
theorem report_isWithin {document : String} {rules : RuleSet}
    (accepted : RuleSet.ofToml document = .ok rules) {source : List Delivery} {name : String}
    {tool : Tool} {report : Report} (done : audit source name rules tool = .ok report) :
    report.IsWithin rules ∧ report.findings.length ≤ 8 + rules.commands.length := by
  have sound := RuleSet.soundCommands_ofToml accepted
  obtain ⟨digest, _, report_eq⟩ := exists_digest_of_audit done
  have within : report.IsWithin rules := by
    rw [report_eq]
    exact Tally.isWithin_summary sound _ tool _
  exact ⟨within, within.length_findings_le⟩

/-- A rules file that warns of a command that no table of the library has. -/
def scanDocument : String :=
  "[[destructive]]\nsystem='redis'\ncommand='KEYS'\ncategory='infra.scan'\n" ++
    "severity='WARNING'\ntitle='Scan'\nremediation='Use SCAN'\n"

/-- The rules of that file. -/
def scanRules : RuleSet :=
  { RuleSet.builtin with
    commands := RuleSet.builtinCommands ++
      [⟨.redis, "KEYS", "infra.scan", .warning, "Scan", "Use SCAN"⟩] }

/-- A trace that issues the command twice, and has a line that holds no record in between. -/
def scanTrace : Bytes :=
  Text.encodeUtf8 (
    "\x7b\"role\":\"redis\",\"meta\":\x7b\"redis\":\x7b\"command\":\"KEYS *\"\x7d\x7d\x7d\n" ++
    "no record\n" ++
    "\x7b\"role\":\"redis\",\"meta\":\x7b\"redis\":\x7b\"op\":\"keys a\"\x7d\x7d\x7d\n")

/-- The report on that trace is within the tables of that file. -/
theorem scanTrace_isWithin :
    RuleSet.ofToml scanDocument = .ok scanRules ∧
    ∃ report, audit [.bytes scanTrace] "inline" scanRules ⟨"tracegate", "0.1.0", none⟩ =
        .ok report ∧
      (report.findings.map fun f => (f.category, f.count, f.subjects.toList)) =
        [("infra.scan", 2, ["redis"])] ∧
      report.IsWithin scanRules ∧ report.findings.length ≤ 8 + scanRules.commands.length := by
  have accepted : RuleSet.ofToml scanDocument = .ok scanRules := by decide +kernel
  have summed : (audit [.bytes scanTrace] "inline" scanRules ⟨"tracegate", "0.1.0", none⟩).map
      (fun report => report.findings.map fun f => (f.category, f.count, f.subjects.toList)) =
      .ok [("infra.scan", 2, ["redis"])] := by decide +kernel
  obtain ⟨report, done, found⟩ := map_eq_ok_iff.1 summed
  obtain ⟨within, bounded⟩ := report_isWithin accepted done
  exact ⟨accepted, report, done, found, within, bounded⟩

end TraceAudit
