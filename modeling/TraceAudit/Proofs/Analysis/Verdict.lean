import TraceAudit.Proofs.Analysis.Batch
import TraceAudit.Proofs.Analysis.Outcomes
import TraceAudit.Proofs.Rules.Merge

/-!
# The verdict of a run

A run is blocked exactly when some category is opened by a detection that blocks. A detection that
blocks is passed over when the first detection of its category does not, which a rules file can
bring about by giving two commands one category and different severities. When rules of one
category have one severity, the run is blocked exactly if some record yields a detection that
blocks.
-/

namespace TraceAudit

namespace Detection

/-- A detection that is the first one of its category. -/
def Leads (detections : List Detection) (d : Detection) : Prop :=
  detections.find? (·.rule.id == d.rule.id) = some d

/-- Some detection blocks, and no category is opened by one that does. -/
def Masked (detections : List Detection) : Prop :=
  (∃ d ∈ detections, d.rule.severity = .blocker) ∧
    ∀ d, Leads detections d → d.rule.severity ≠ .blocker

theorem Leads.mem {detections : List Detection} {d : Detection} (leads : Leads detections d) :
    d ∈ detections :=
  List.mem_of_find?_eq_some leads

/-- Every category that is met is opened by some detection. -/
theorem exists_leads {detections : List Detection} {d : Detection} (met : d ∈ detections) :
    ∃ first, Leads detections first ∧ first.rule.id = d.rule.id := by
  cases found : detections.find? (·.rule.id == d.rule.id) with
  | none =>
      have absent := List.find?_eq_none.1 found d met
      exact absurd (beq_self_eq_true d.rule.id) absent
  | some first =>
      have same : first.rule.id = d.rule.id := by
        have satisfied := List.find?_some found
        exact beq_iff_eq.1 satisfied
      refine ⟨first, ?_, same⟩
      rw [Leads, same]
      exact found

/-- Unless they are masked, detections hold one that blocks exactly if one that blocks leads. -/
theorem exists_blocker_iff_leads {detections : List Detection} :
    ((∃ d, Leads detections d ∧ d.rule.severity = .blocker) ↔
      ∃ d ∈ detections, d.rule.severity = .blocker) ↔ ¬ Masked detections := by
  constructor
  · rintro same ⟨present, none_leads⟩
    obtain ⟨d, leads, blocks⟩ := same.2 present
    exact none_leads d leads blocks
  · intro unmasked
    constructor
    · rintro ⟨d, leads, blocks⟩
      exact ⟨d, leads.mem, blocks⟩
    · intro present
      refine Classical.byContradiction fun none_leads => unmasked ⟨present, ?_⟩
      intro d leads blocks
      exact none_leads ⟨d, leads, blocks⟩

end Detection

open Detection (Leads Masked)

namespace Tally

/-- A finding that blocks is one that was opened by a detection that blocks. -/
theorem Led.exists_blocker_iff {detections : List Detection} {findings : List Finding}
    (led : Led detections findings) :
    (∃ f ∈ findings, f.severity = .blocker) ↔
      ∃ d, Leads detections d ∧ d.rule.severity = .blocker := by
  constructor
  · rintro ⟨f, found, blocks⟩
    have opened := led.opened f.category
    rw [led.ascending.find?_category found] at opened
    generalize first : detections.find? (·.rule.id == f.category) = d? at opened
    cases opened with
    | @some _ d opened =>
        refine ⟨d, ?_, opened.severity ▸ blocks⟩
        rw [Leads, ← opened.category]
        exact first
  · rintro ⟨d, leads, blocks⟩
    have opened := led.opened d.rule.id
    rw [leads] at opened
    generalize kept : Finding.find? findings d.rule.id = f? at opened
    cases opened with
    | @some f _ opened =>
        exact ⟨f, List.mem_of_find?_eq_some kept, opened.severity.trans blocks⟩

end Tally

/-- What is counted of an input makes a run fail exactly if some category is opened by a detection
that blocks. -/
theorem Trace.exitCode_summary (rules : RuleSet) (input : Bytes) :
    (Classification.ofFindings (summary rules input).findings).exitCode = 2 ↔
      ∃ d, Leads (detections rules input) d ∧ d.rule.severity = .blocker := by
  rw [Classification.exitCode_ofFindings]
  refine Iff.trans ?_ (Tally.led_ofItems rules (items input)).exists_blocker_iff
  simp only [summary, Tally.summary, Finding.mem_sorted]

theorem Trace.exists_detection_iff (rules : RuleSet) (input : Bytes) :
    (∃ d ∈ detections rules input, d.rule.severity = .blocker) ↔
      ∃ record ∈ records input, ∃ d ∈ (record.analyze rules).detections,
        d.rule.severity = .blocker := by
  constructor
  · rintro ⟨d, raised, blocks⟩
    obtain ⟨record, held, raised⟩ := mem_detections.1 raised
    exact ⟨record, held, d, raised, blocks⟩
  · rintro ⟨record, held, d, raised, blocks⟩
    exact ⟨d, mem_detections.2 ⟨record, held, raised⟩, blocks⟩

/-! ## Categories of one severity -/

/-- No two commands of the table share a category and differ in severity. -/
def RuleSet.Uniform (rules : RuleSet) : Prop :=
  ∀ a ∈ rules.commands, ∀ b ∈ rules.commands, a.category = b.category → a.severity = b.severity

instance (rules : RuleSet) : Decidable rules.Uniform :=
  inferInstanceAs (Decidable (∀ a ∈ rules.commands, ∀ b ∈ rules.commands, _))

/-- Detections of one category have one severity where commands of one category have. -/
theorem severity_eq_of_uniform {rules : RuleSet} (sound : rules.SoundCommands)
    (uniform : rules.Uniform) {input : Bytes} {d e : Detection}
    (met : d ∈ Trace.detections rules input) (also_met : e ∈ Trace.detections rules input)
    (same : d.rule.id = e.rule.id) : d.rule.severity = e.rule.severity := by
  obtain ⟨record, _, raised⟩ := Trace.mem_detections.1 met
  obtain ⟨other, _, also_raised⟩ := Trace.mem_detections.1 also_met
  -- No command of the table has the category of a fixed rule.
  have apart (entry : CommandRule) (listed : entry ∈ rules.commands) {rule : Rule}
      (fixed : rule.IsFixed) : entry.rule.id ≠ rule.id := by
    intro taken
    have there := fixed.id_mem
    rw [← taken] at there
    exact sound.category_not_mem listed there
  rcases record.rule_of_analyze raised with fixed | ⟨entry, listed, from_entry⟩
  · rcases other.rule_of_analyze also_raised with also_fixed | ⟨twin, also_listed, from_twin⟩
    · rw [fixed.severity, also_fixed.severity]
    · exact absurd (from_twin ▸ same.symm) (apart twin also_listed fixed)
  · rcases other.rule_of_analyze also_raised with also_fixed | ⟨twin, also_listed, from_twin⟩
    · exact absurd (from_entry ▸ same) (apart entry listed also_fixed)
    · rw [from_entry, from_twin] at same ⊢
      exact uniform entry listed twin also_listed same

/-- Where commands of one category have one severity, no detections are masked. -/
theorem not_masked_of_uniform {rules : RuleSet} (sound : rules.SoundCommands)
    (uniform : rules.Uniform) (input : Bytes) : ¬ Masked (Trace.detections rules input) := by
  rintro ⟨⟨d, met, blocks⟩, none_leads⟩
  obtain ⟨first, leads, same⟩ := Detection.exists_leads met
  have agree := severity_eq_of_uniform sound uniform leads.mem met same
  exact none_leads first leads (agree.trans blocks)

/-! ## Blocked runs -/

/-- A run is blocked exactly if some category is opened by a detection that blocks. That is to say
that some record yields a detection that blocks, unless all of these are masked, as they never are
where commands of one category have one severity. -/
theorem blocked_iff_leading_blocker {source : List Delivery} {input : Bytes} {name : String}
    {rules : RuleSet} {tool : Tool} {report : Report} (delivered : Delivers source input)
    (done : audit source name rules tool = .ok report) :
    (report.classification.exitCode = 2 ↔
      ∃ d, Leads (Trace.detections rules input) d ∧ d.rule.severity = .blocker) ∧
    ((report.classification.exitCode = 2 ↔
      ∃ record ∈ Trace.records input, ∃ d ∈ (record.analyze rules).detections,
        d.rule.severity = .blocker) ↔
      ¬ Masked (Trace.detections rules input)) ∧
    (rules.SoundCommands → rules.Uniform → ¬ Masked (Trace.detections rules input)) := by
  have blocked := Trace.exitCode_summary rules input
  rw [report_of_audit delivered done]
  refine ⟨blocked, ?_, fun sound uniform => not_masked_of_uniform sound uniform input⟩
  rw [← Detection.exists_blocker_iff_leads, ← Trace.exists_detection_iff]
  exact iff_congr blocked Iff.rfl

/-- The line of a command to Redis. -/
def redisLine (command : String) : String :=
  "\x7b\"role\":\"redis\",\"meta\":\x7b\"redis\":\x7b\"command\":\"" ++ command ++
    "\"\x7d\x7d\x7d\n"

/-- A run in which the cache is wiped is blocked. -/
theorem flushall_blocked :
    ∃ report, audit [.bytes (Text.encodeUtf8 (redisLine "FLUSHALL"))] "inline" .builtin
      ⟨"tracegate", "0.1.0", none⟩ = .ok report ∧ report.classification.exitCode = 2 := by
  have delivered := delivers_whole (Text.encodeUtf8 (redisLine "FLUSHALL"))
  have done := audit_of_parsed delivered "inline" .builtin ⟨"tracegate", "0.1.0", none⟩
    (by decide +kernel)
  refine ⟨_, done, (blocked_iff_leading_blocker delivered done).1.2 ?_⟩
  refine ⟨⟨⟨"infra.cache-flush-all", .blocker, "Redis cache wipe: FLUSHALL",
    "Delete specific keys or use key expiry instead of wiping every database."⟩,
    "redis FLUSHALL", some "redis"⟩, ?_, rfl⟩
  unfold Leads
  decide +kernel

/-- A rules file with one category for a command that it warns of and for one that blocks. -/
def mixedDocument : String :=
  "[[destructive]]\nsystem='redis'\ncommand='KEYS'\ncategory='infra.cache'\n" ++
  "severity='WARNING'\ntitle='Scan'\nremediation='Use SCAN'\n" ++
  "[[destructive]]\nsystem='redis'\ncommand='SHUTDOWN'\ncategory='infra.cache'\n" ++
  "severity='BLOCKER'\ntitle='Stop'\nremediation='Deny'"

/-- The rules of that file. -/
def mixedRules : RuleSet :=
  { RuleSet.builtin with
    commands := RuleSet.builtinCommands ++ [
      ⟨.redis, "KEYS", "infra.cache", .warning, "Scan", "Use SCAN"⟩,
      ⟨.redis, "SHUTDOWN", "infra.cache", .blocker, "Stop", "Deny"⟩] }

/-- A command that blocks does not block the run when its category was met before. -/
theorem shutdown_not_blocked :
    RuleSet.ofToml mixedDocument = .ok mixedRules ∧
      ∃ report,
        audit [.bytes (Text.encodeUtf8 (redisLine "KEYS *" ++ redisLine "SHUTDOWN"))] "inline"
          mixedRules ⟨"tracegate", "0.1.0", none⟩ = .ok report ∧
        report.classification.exitCode = 0 ∧
        ∃ record ∈ Trace.records (Text.encodeUtf8 (redisLine "KEYS *" ++ redisLine "SHUTDOWN")),
          ∃ d ∈ (record.analyze mixedRules).detections, d.rule.severity = .blocker := by
  have delivered := delivers_whole (Text.encodeUtf8 (redisLine "KEYS *" ++ redisLine "SHUTDOWN"))
  have done := audit_of_parsed delivered "inline" mixedRules ⟨"tracegate", "0.1.0", none⟩
    (by decide +kernel)
  refine ⟨by decide +kernel, _, done, ?_, by decide +kernel⟩
  unfold Report.ofSummary
  decide +kernel

/-- Where commands of one category have one severity, a run is blocked exactly if some record yields
a detection that blocks, in whatever order the records come. -/
theorem blocked_iff_of_uniform {source : List Delivery} {input : Bytes} {name : String}
    {rules : RuleSet} {tool : Tool} {report : Report} (sound : rules.SoundCommands)
    (uniform : rules.Uniform) (delivered : Delivers source input)
    (done : audit source name rules tool = .ok report) :
    report.classification.exitCode = 2 ↔
      ∃ record ∈ Trace.records input, ∃ d ∈ (record.analyze rules).detections,
        d.rule.severity = .blocker := by
  have unmasked := not_masked_of_uniform sound uniform input
  rw [report_of_audit delivered done]
  refine (Trace.exitCode_summary rules input).trans ?_
  rw [Detection.exists_blocker_iff_leads.2 unmasked, Trace.exists_detection_iff]

/-- The tables that come with the library have one severity for each category. -/
example : RuleSet.builtin.SoundCommands ∧ RuleSet.builtin.Uniform :=
  ⟨RuleSet.soundCommands_builtin, by decide +kernel⟩

end TraceAudit
