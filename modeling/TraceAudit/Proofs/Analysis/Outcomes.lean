import TraceAudit.Analysis.Record
import TraceAudit.Proofs.Report.Tally
import TraceAudit.Proofs.Sql.Faults
import TraceAudit.Proofs.Steps

/-!
# What the analysis of a record can give

The payload of a record that was read from a line is one of its role, and each role has outcomes of
its own: only a query is unreadable, only a call is to an uncovered host or not applicable, only
a record of another role is of an unknown role. The rule of a detection comes from the fixed rules,
which all block, or from the table of commands.
-/

namespace TraceAudit

/-- The payload is one of the role. -/
inductive Payload.OfRole : Role → Payload → Prop where
  | http (call : HttpCall) : OfRole .http (.http call)
  | sql (query : String) : OfRole .sql (.sql query)
  | command (store : Store) (c : Command) : OfRole (.store store) (.command c)
  | uncovered (tag : String) : OfRole (.other tag) .uncovered

theorem Payload.ofRole_read {role : Role} {value : Json} {payload : Payload}
    (read : Payload.read role value = .ok payload) : OfRole role payload := by
  cases role with
  | http =>
      obtain ⟨fields, _, given⟩ := bind_eq_ok_iff.1 read
      exact Except.ok.inj given ▸ .http _
  | sql =>
      obtain ⟨fields, _, given⟩ := bind_eq_ok_iff.1 read
      exact Except.ok.inj given ▸ .sql _
  | store s =>
      obtain ⟨fields, _, given⟩ := bind_eq_ok_iff.1 read
      exact Except.ok.inj given ▸ .command s _
  | other tag => exact Except.ok.inj read ▸ .uncovered tag

/-- A record that an object holds has a payload of its role. -/
theorem Record.ofRole_ofObject {line : Nat} {object : Json} {record : Record}
    (held : Record.ofObject line object = .ok record) :
    Payload.OfRole record.role record.payload := by
  unfold ofObject at held
  split at held
  · dsimp only at held
    split at held
    · split at held
      · split at held
        · cases held
        · rename_i payload read
          exact Except.ok.inj held ▸ Payload.ofRole_read read
      · cases held
    · rename_i role _ unknown
      cases role with
      | other tag => exact Except.ok.inj held ▸ .uncovered tag
      | http => exact absurd rfl unknown
      | sql => exact absurd rfl unknown
      | store s => exact absurd rfl unknown
  · cases held

/-- A record that was read from a line has a payload of its role. -/
theorem Record.ofRole_ofLine {line : Nat} {text : String} {record : Record}
    (held : Record.ofLine line text = .ok record) :
    Payload.OfRole record.role record.payload := by
  unfold ofLine at held
  dsimp only at held
  split at held
  · cases held
  · rename_i members _
    cases read : ofObject line (.object members) with
    | error fault =>
        rw [read] at held
        cases held
    | ok found =>
        rw [read] at held
        exact Except.ok.inj held ▸ ofRole_ofObject read
  · cases held

/-- The outcomes that records of a role can have. -/
inductive Outcome.OfRole : Role → Outcome → Prop where
  | call (detections : List Detection) : OfRole .http (.analyzed detections)
  | notApplicable : OfRole .http .notApplicable
  | uncoveredHost : OfRole .http (.gap .uncoveredHost)
  | query (detections : List Detection) : OfRole .sql (.analyzed detections)
  | unanalyzableSql : OfRole .sql (.gap .unanalyzableSql)
  | command (store : Store) (detections : List Detection) :
      OfRole (.store store) (.analyzed detections)
  | unknownRole (tag : String) : OfRole (.other tag) (.gap .unknownRole)

theorem ofRole_checkPayment (call : HttpCall) (rules : RuleSet) :
    Outcome.OfRole .http (checkPayment call rules) := by
  unfold checkPayment
  split
  · exact .uncoveredHost
  · split
    · exact .uncoveredHost
    · unfold checkVendorCall
      split
      · dsimp only
        split <;> exact .call _
      · exact .notApplicable

theorem ofRole_checkQuery (query : String) : Outcome.OfRole .sql (Sql.checkQuery query) := by
  unfold Sql.checkQuery
  split
  · exact .unanalyzableSql
  · exact .unanalyzableSql
  · exact .query _

/-- The outcome for a record is one of its role, if its payload is. -/
theorem Record.ofRole_analyze {record : Record} (fits : Payload.OfRole record.role record.payload)
    (rules : RuleSet) : Outcome.OfRole record.role (record.analyze rules) := by
  obtain ⟨line, traceId, role, payload⟩ := record
  cases fits with
  | http call => exact ofRole_checkPayment call rules
  | sql query => exact ofRole_checkQuery query
  | command store c => exact .command store _
  | uncovered tag => exact .unknownRole tag

/-! ## Where rules come from -/

/-- A rule that needs no table: one for a fault of a statement or the one for payments. -/
def Rule.IsFixed (rule : Rule) : Prop :=
  rule = paymentRule ∨ ∃ fault : SqlFault, rule = fault.rule

theorem Rule.IsFixed.severity {rule : Rule} (fixed : rule.IsFixed) : rule.severity = .blocker := by
  rcases fixed with rfl | ⟨fault, rfl⟩ <;> rfl

theorem Rule.IsFixed.id_mem {rule : Rule} (fixed : rule.IsFixed) :
    rule.id ∈ builtinCategories := by
  rcases fixed with rfl | ⟨fault, rfl⟩
  · exact List.mem_cons_self
  · have listed : fault ∈ SqlFault.all := by cases fault <;> decide
    exact List.mem_cons_of_mem _ (List.mem_map_of_mem listed)

/-- What a record can raise: the detection of a payment to a vendor, that of a fault of a query, or
that of a command in the table. -/
inductive Detection.IsUnder (rules : RuleSet) : Detection → Prop where
  | payment (call : HttpCall) {v : Vendor} (listed : v ∈ rules.vendors) (values : List String) :
      IsUnder rules (paymentDetection call v values)
  | query (fault : SqlFault) (evidence : String) : IsUnder rules ⟨fault.rule, evidence, none⟩
  | command (store : Store) {entry : CommandRule} (listed : entry ∈ rules.commands)
      (evidence : String) : IsUnder rules ⟨entry.rule, evidence, some store.name⟩

theorem isUnder_of_checkPayment {call : HttpCall} {rules : RuleSet} {d : Detection}
    (raised : d ∈ (checkPayment call rules).detections) : d.IsUnder rules := by
  unfold checkPayment at raised
  split at raised
  · cases raised
  · split at raised
    · cases raised
    · rename_i v found
      unfold checkVendorCall at raised
      split at raised
      · dsimp only at raised
        split at raised
        · cases raised
        · obtain ⟨_, _, listed⟩ := Option.bind_eq_some_iff.1 found
          rw [List.mem_singleton.1 raised]
          exact .payment call (List.mem_of_find?_eq_some listed) _
      · cases raised

theorem isUnder_of_checkQuery {query : String} {rules : RuleSet} {d : Detection}
    (raised : d ∈ (Sql.checkQuery query).detections) : d.IsUnder rules := by
  unfold Sql.checkQuery at raised
  split at raised
  · cases raised
  · cases raised
  · rw [Sql.brokenRules_eq, Outcome.detections, List.map_map] at raised
    obtain ⟨fault, _, rfl⟩ := List.mem_map.1 raised
    exact .query fault _

theorem isUnder_of_checkCommand {store : Store} {c : Command} {rules : RuleSet} {d : Detection}
    (raised : d ∈ checkCommand store c rules) : d.IsUnder rules := by
  unfold checkCommand at raised
  split at raised
  · cases raised
  · rename_i entry found
    rw [List.mem_singleton.1 raised]
    exact .command store (List.mem_of_find?_eq_some found) _

/-- What a record raises comes from the rules. -/
theorem Record.isUnder_of_analyze {record : Record} {rules : RuleSet} {d : Detection}
    (raised : d ∈ (record.analyze rules).detections) : d.IsUnder rules := by
  unfold analyze at raised
  split at raised
  · exact isUnder_of_checkPayment raised
  · exact isUnder_of_checkQuery raised
  · split at raised
    · exact isUnder_of_checkCommand raised
    · cases raised
  · cases raised

/-- The rule of a detection is fixed or is that of an entry in the table of commands. -/
theorem Record.rule_of_analyze {record : Record} {rules : RuleSet} {d : Detection}
    (raised : d ∈ (record.analyze rules).detections) :
    d.rule.IsFixed ∨ ∃ entry ∈ rules.commands, d.rule = entry.rule := by
  cases isUnder_of_analyze raised with
  | payment => exact .inl (.inl rfl)
  | query fault => exact .inl (.inr ⟨fault, rfl⟩)
  | command _ listed => exact .inr ⟨_, listed, rfl⟩

/-- The subject of a detection is a vendor of the rules or a store. -/
theorem Record.subject_of_analyze {record : Record} {rules : RuleSet} {d : Detection}
    {subject : String} (raised : d ∈ (record.analyze rules).detections)
    (about : d.subject = some subject) :
    (∃ v ∈ rules.vendors, subject = v.provider) ∨ ∃ store : Store, subject = store.name := by
  cases isUnder_of_analyze raised with
  | payment _ listed => exact .inl ⟨_, listed, (Option.some.inj about).symm⟩
  | query => cases about
  | command store => exact .inr ⟨store, (Option.some.inj about).symm⟩

end TraceAudit
