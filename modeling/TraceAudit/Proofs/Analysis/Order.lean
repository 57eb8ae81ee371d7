import TraceAudit.Proofs.Analysis.LineByLine
import TraceAudit.Proofs.Analysis.Outcomes

/-!
# The order of lines

The lines of a trace may come in any order: where rules of one category are one rule, a run gives
the same coverage, the same verdict and the same findings in the same order. What comes first shows
in nothing but the sample of a finding and the fingerprint of the input.
-/

namespace TraceAudit

namespace RuleSet

/-- All rules that a detection can be of: those that need no table, and those of the commands. -/
def allRules (rules : RuleSet) : List Rule :=
  paymentRule :: SqlFault.all.map SqlFault.rule ++ rules.commands.map CommandRule.rule

/-- Rules of one category are one rule. -/
def Coherent (rules : RuleSet) : Prop :=
  ∀ a ∈ rules.allRules, ∀ b ∈ rules.allRules, a.id = b.id → a = b

instance (rules : RuleSet) : Decidable rules.Coherent :=
  inferInstanceAs (Decidable (∀ a ∈ rules.allRules, ∀ b ∈ rules.allRules, _))

/-- The tables that come with the library have one rule for each category. -/
theorem coherent_builtin : builtin.Coherent := by
  decide +kernel

theorem mem_allRules_of_isFixed {rules : RuleSet} {rule : Rule} (fixed : rule.IsFixed) :
    rule ∈ rules.allRules := by
  rcases fixed with rfl | ⟨fault, rfl⟩
  · exact List.mem_cons_self
  · have listed : fault ∈ SqlFault.all := by cases fault <;> decide
    exact List.mem_cons_of_mem _ (List.mem_append_left _ (List.mem_map_of_mem listed))

theorem mem_allRules_of_command {rules : RuleSet} {entry : CommandRule}
    (listed : entry ∈ rules.commands) : entry.rule ∈ rules.allRules :=
  List.mem_cons_of_mem _ (List.mem_append_right _ (List.mem_map_of_mem listed))

end RuleSet

theorem Record.rule_mem_allRules {record : Record} {rules : RuleSet} {d : Detection}
    (raised : d ∈ (record.analyze rules).detections) : d.rule ∈ rules.allRules := by
  rcases record.rule_of_analyze raised with fixed | ⟨entry, listed, from_entry⟩
  · exact RuleSet.mem_allRules_of_isFixed fixed
  · rw [from_entry]
    exact RuleSet.mem_allRules_of_command listed

/-- Where rules of one category are one rule, so are those of the detections of a trace. -/
theorem Trace.coherent_steps {rules : RuleSet} (coherent : rules.Coherent) (input : Bytes) :
    Finding.Coherent ((steps rules input).map Tally.Step.detections).flatten := by
  intro d raised e also_raised
  obtain ⟨record, raised⟩ := exists_record_of_mem_steps raised
  obtain ⟨other, also_raised⟩ := exists_record_of_mem_steps also_raised
  exact coherent d.rule (record.rule_mem_allRules raised) e.rule
    (other.rule_mem_allRules also_raised)

namespace Report

/-- What a report says in whatever order the lines come: all but the samples of the findings and the
fingerprint of the input. -/
def orderFree (r : Report) : Report :=
  { r with
    input := { r.input with sha256 := "" }
    findings := r.findings.map Finding.withoutSample }

end Report

/-- Samples have no part in the verdict. -/
theorem Classification.ofFindings_map_withoutSample (findings : List Finding) :
    ofFindings (findings.map Finding.withoutSample) = ofFindings findings := by
  have severities : (findings.map Finding.withoutSample).map (·.severity) =
      findings.map (·.severity) := by
    rw [List.map_map]
    rfl
  have blockers : (findings.map Finding.withoutSample).countP (·.severity = .blocker) =
      findings.countP (·.severity = .blocker) := by
    rw [List.countP_map]
    rfl
  unfold ofFindings
  rw [severities, blockers]

/-- Summaries that differ in samples only have reports that differ in samples and fingerprint. -/
theorem Report.orderFree_ofSummary_congr {s t : Summary} (covered : s.coverage = t.coverage)
    (found : s.findings.map Finding.withoutSample = t.findings.map Finding.withoutSample)
    (tool : Tool) (name first second : String) (rules : RuleSet) :
    (ofSummary tool ⟨name, first⟩ rules s).orderFree =
      (ofSummary tool ⟨name, second⟩ rules t).orderFree := by
  have verdict : Classification.ofFindings s.findings = Classification.ofFindings t.findings := by
    rw [← Classification.ofFindings_map_withoutSample, found,
      Classification.ofFindings_map_withoutSample]
  unfold orderFree ofSummary
  dsimp only
  rw [covered, found, verdict]

/-- A run over lines in another order gives a report exactly if the run over the first order does,
and, samples and fingerprint apart, the same one. Without a report the error is the same. A text
stands for a line, or for several that stay together. -/
theorem audit_perm {texts others : List Bytes} (perm : texts.Perm others)
    {source another : List Delivery} (delivered : Delivers source (Trace.ofTexts texts))
    (also_delivered : Delivers another (Trace.ofTexts others)) {rules : RuleSet}
    (coherent : rules.Coherent) (name : String) (tool : Tool) :
    (audit source name rules tool).map Report.orderFree =
      (audit another name rules tool).map Report.orderFree := by
  have steps := Trace.steps_perm rules perm
  have nonBlank : Trace.nonBlankLines (Trace.ofTexts texts) =
      Trace.nonBlankLines (Trace.ofTexts others) := by
    rw [← Trace.length_steps rules, ← Trace.length_steps rules]
    exact steps.length_eq
  obtain ⟨covered, found⟩ := Tally.summary_perm steps (Trace.coherent_steps coherent _)
  rw [← Trace.summary_eq_ofSteps, ← Trace.summary_eq_ofSteps] at covered found
  rw [audit_delivered delivered, audit_delivered also_delivered, nonBlank, covered]
  split
  · rfl
  · exact congrArg Except.ok (Report.orderFree_ofSummary_congr covered found tool name _ _ rules)

/-- The line of a command that wipes a cache, without its line feed. -/
def flushText (target : String) : Bytes :=
  Text.encodeUtf8 ("\x7b\"role\":\"redis\",\"meta\":\x7b\"redis\":\x7b\"command\":\"FLUSHALL\"," ++
    "\"target\":\"" ++ target ++ "\"\x7d\x7d\x7d")

/-- Two caches are wiped, and the reports on either order differ in the one that is shown. -/
theorem flushes_perm :
    ∃ first second,
      audit [.bytes (Trace.ofTexts [flushText "a", flushText "b"])] "inline" .builtin
        ⟨"tracegate", "0.1.0", none⟩ = .ok first ∧
      audit [.bytes (Trace.ofTexts [flushText "b", flushText "a"])] "inline" .builtin
        ⟨"tracegate", "0.1.0", none⟩ = .ok second ∧
      first.orderFree = second.orderFree ∧
      first.findings.map Finding.sample = ["redis FLUSHALL a"] ∧
      second.findings.map Finding.sample = ["redis FLUSHALL b"] := by
  have delivered := delivers_whole (Trace.ofTexts [flushText "a", flushText "b"])
  have also_delivered := delivers_whole (Trace.ofTexts [flushText "b", flushText "a"])
  have first_found :
      (Trace.summary .builtin (Trace.ofTexts [flushText "a", flushText "b"])).coverage.records ≠ 0 ∧
      (Trace.summary .builtin (Trace.ofTexts [flushText "a", flushText "b"])).findings.map
        Finding.sample = ["redis FLUSHALL a"] := by decide +kernel
  have second_found :
      (Trace.summary .builtin (Trace.ofTexts [flushText "b", flushText "a"])).coverage.records ≠ 0 ∧
      (Trace.summary .builtin (Trace.ofTexts [flushText "b", flushText "a"])).findings.map
        Finding.sample = ["redis FLUSHALL b"] := by decide +kernel
  have first_done := audit_of_parsed delivered "inline" .builtin ⟨"tracegate", "0.1.0", none⟩
    first_found.1
  have second_done := audit_of_parsed also_delivered "inline" .builtin
    ⟨"tracegate", "0.1.0", none⟩ second_found.1
  have same := audit_perm (List.Perm.swap (flushText "b") (flushText "a") []) delivered
    also_delivered RuleSet.coherent_builtin "inline" ⟨"tracegate", "0.1.0", none⟩
  rw [first_done, second_done] at same
  exact ⟨_, _, first_done, second_done, Except.ok.inj same, first_found.2, second_found.2⟩

end TraceAudit
