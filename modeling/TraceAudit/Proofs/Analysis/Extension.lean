import TraceAudit.Proofs.Analysis.Attribution
import TraceAudit.Proofs.Analysis.Outcomes
import TraceAudit.Proofs.Rules.Liveness
import TraceAudit.Proofs.Rules.Overlay

/-!
# Rules that are only added

A rules file that replaces nothing puts its vendors and commands behind those of the library. The
first vendor of a domain is the one that judges a call, and the first command with a name the one
that is found, so what the library decides stays decided, also where a new vendor lists a domain of
a known one. New rules only speak where the library is silent.
-/

namespace TraceAudit

open Web (Target)

namespace RuleSet

/-! ## Tables behind tables -/

section Tables

variable {α : Type} {replaces : α → α → Bool}

/-- An entry that replaces nothing in front goes into the entries behind. -/
theorem put_append {entry : α} {front : List α}
    (apart : ∀ old ∈ front, replaces entry old = false) (back : List α) :
    put replaces entry (front ++ back) = front ++ put replaces entry back := by
  induction front with
  | nil => rfl
  | cons old rest ih =>
      have kept : ¬replaces entry old = true := by simp [apart old List.mem_cons_self]
      rw [List.cons_append, put, if_neg kept,
        ih fun other listed => apart other (List.mem_cons_of_mem old listed), List.cons_append]

theorem foldl_put_append {front entries : List α}
    (apart : ∀ entry ∈ entries, ∀ old ∈ front, replaces entry old = false) (back : List α) :
    entries.foldl (fun table entry => put replaces entry table) (front ++ back) =
      front ++ entries.foldl (fun table entry => put replaces entry table) back := by
  induction entries generalizing back with
  | nil => rfl
  | cons entry rest ih =>
      rw [List.foldl_cons, put_append (apart entry List.mem_cons_self), List.foldl_cons]
      exact ih (fun other listed => apart other (List.mem_cons_of_mem entry listed)) _

end Tables

/-- Rules with more rules behind them. -/
def followedBy (first more : RuleSet) : RuleSet :=
  ⟨first.vendors ++ more.vendors, first.commands ++ more.commands⟩

theorem vendor?_followedBy (first more : RuleSet) (domain : String) :
    (first.followedBy more).vendor? domain = (first.vendor? domain).or (more.vendor? domain) :=
  List.find?_append

theorem command?_followedBy (first more : RuleSet) (store : Store) (command : String) :
    (first.followedBy more).command? store command =
      (first.command? store command).or (more.command? store command) :=
  List.find?_append

theorem vendorOf?_followedBy (first more : RuleSet) (target : Target) :
    (first.followedBy more).vendorOf? target =
      (first.vendorOf? target).or (more.vendorOf? target) := by
  unfold vendorOf?
  cases target.registrable with
  | none => rfl
  | some domain => exact vendor?_followedBy first more domain

end RuleSet

/-- A file keeps the tables of the library and names no vendor and no command of theirs. -/
structure RulesFile.OnlyAdds (file : RulesFile) : Prop where
  keeps : file.replacesBuiltin = false
  vendors : ∀ v ∈ file.vendors, ∀ known ∈ RuleSet.builtinVendors, v.provider ≠ known.provider
  commands : ∀ c ∈ file.commands, ∀ known ∈ RuleSet.builtinCommands, c.key ≠ known.key

namespace RuleSet

theorem ofToml_eq_ofFile {document : String} {file : RulesFile}
    (read : RulesFile.ofToml? document = some file) : ofToml document = ofFile file := by
  unfold ofToml
  rw [read]

/-- Putting entries of a file that only adds into the tables of the library leaves those in front.
-/
theorem foldl_put_builtin {file : RulesFile} (adds : file.OnlyAdds) :
    file.commands.foldl putCommand
        (file.vendors.foldl (fun rules v => rules.putVendor v.normalized) builtin) =
      builtin.followedBy (file.commands.foldl putCommand
        (file.vendors.foldl (fun rules v => rules.putVendor v.normalized) empty)) := by
  have apart_vendors : ∀ v ∈ file.vendors.map Vendor.normalized, ∀ known ∈ builtinVendors,
      (v.provider == known.provider) = false := by
    intro v listed known there
    obtain ⟨given, given_listed, rfl⟩ := List.mem_map.1 listed
    exact beq_eq_false_iff_ne.2 (adds.vendors given given_listed known there)
  have apart_commands : ∀ c ∈ file.commands, ∀ known ∈ builtinCommands,
      known.isAbout c.store c.command = false := by
    intro c listed known there
    refine Bool.eq_false_iff.2 fun about => adds.commands c listed known there ?_
    exact ((known.isAbout_iff _ _).1 about).symm
  have vendors := foldl_put_append apart_vendors []
  have commands := foldl_put_append apart_commands []
  rw [List.append_nil] at vendors commands
  rw [foldl_putCommand, foldl_putVendor, foldl_putCommand, foldl_putVendor]
  exact congr (congrArg RuleSet.mk vendors) commands

/-- The rules of a file that only adds are those of the library with the rules behind them that the
file gives on its own. -/
theorem exists_own_of_onlyAdds {file : RulesFile} {rules : RuleSet} (adds : file.OnlyAdds)
    (accepted : ofFile file = .ok rules) :
    ∃ own, ofFile { file with replacesBuiltin := true } = .ok own ∧
      rules = builtin.followedBy own := by
  have alone := ofFile_eq_elim { file with replacesBuiltin := true }
  have errors : RulesFile.errors { file with replacesBuiltin := true } = file.errors := rfl
  have base : file.base = builtin := by
    rw [RulesFile.base, adds.keeps]
    rfl
  rw [errors] at alone
  rw [ofFile_eq_elim, base, foldl_put_builtin adds] at accepted
  cases faults : file.errors.head? with
  | some e =>
      rw [faults] at accepted
      cases accepted
  | none =>
      rw [faults] at accepted alone
      exact ⟨_, alone, (Except.ok.inj accepted).symm⟩

end RuleSet

/-! ## Outcomes -/

theorem Record.analyze_call {record : Record} {call : HttpCall}
    (payload : record.payload = .http call) (rules : RuleSet) :
    record.analyze rules = checkPayment call rules := by
  rw [analyze, payload]

theorem Record.analyze_command {record : Record} {store : Store} {c : Command}
    (payload : record.payload = .command c) (role : record.role.store? = some store)
    (rules : RuleSet) : record.analyze rules = .analyzed (checkCommand store c rules) := by
  rw [analyze, payload]
  dsimp only
  rw [role]

/-- The vendor that judges a call does so with more rules behind. -/
theorem RuleSet.Judges.followedBy {first : RuleSet} {call : HttpCall} {target : Target} {v : Vendor}
    (judges : first.Judges call target v) (more : RuleSet) :
    (first.followedBy more).Judges call target v := by
  refine ⟨judges.read, ?_⟩
  rw [vendorOf?_followedBy, judges.vendor, Option.some_or]

/-- A call that rules leave uncovered is judged by those behind them alone. -/
theorem checkPayment_followedBy {call : HttpCall} {first : RuleSet}
    (uncovered : ¬∃ target v, first.Judges call target v) (more : RuleSet) :
    checkPayment call (first.followedBy more) = checkPayment call more := by
  unfold checkPayment
  cases read : Target.ofUrl? call.url with
  | none => rfl
  | some target =>
      have silent : first.vendorOf? target = none :=
        Option.eq_none_iff_forall_ne_some.2 fun v vendor => uncovered ⟨target, v, read, vendor⟩
      dsimp only
      rw [RuleSet.vendorOf?_followedBy, silent, Option.none_or]

/-- A command that no entry is about is left to the rules behind. -/
theorem checkCommand_followedBy {store : Store} {c : Command} {first : RuleSet}
    (silent : first.command? store c.operation = none) (more : RuleSet) :
    checkCommand store c (first.followedBy more) = checkCommand store c more := by
  unfold checkCommand
  rw [RuleSet.command?_followedBy, silent, Option.none_or]

/-- How the outcome for a record can change when rules go behind others: not at all, or a call to an
uncovered host is judged by the rules behind alone, or one entry of theirs is about a command that
raised nothing. -/
inductive Record.Gains (record : Record) (more : RuleSet) : Outcome → Outcome → Prop where
  | nothing (outcome : Outcome) : Gains record more outcome outcome
  | judgment {call : HttpCall} (payload : record.payload = .http call) :
      Gains record more (.gap .uncoveredHost) (checkPayment call more)
  | detection {store : Store} {c : Command} {entry : CommandRule}
      (payload : record.payload = .command c) (role : record.role.store? = some store)
      (listed : entry ∈ more.commands) (about : entry.isAbout store c.operation = true) :
      Gains record more (.analyzed [])
        (.analyzed [⟨entry.rule, commandEvidence store entry c.target, some store.name⟩])

/-- What raised a detection keeps its outcome. -/
theorem Record.Gains.eq_of_raised {record : Record} {more : RuleSet} {before after : Outcome}
    (gains : record.Gains more before after) (raised : before.detections ≠ []) :
    after = before := by
  cases gains with
  | nothing => rfl
  | judgment => exact absurd rfl raised
  | detection => exact absurd rfl raised

/-- The first vendor with the domain of a call stays the first with more rules behind. -/
theorem Record.gains_checkPayment {record : Record} {call : HttpCall}
    (payload : record.payload = .http call) (first more : RuleSet) :
    record.Gains more (checkPayment call first) (checkPayment call (first.followedBy more)) := by
  by_cases covered : ∃ target v, first.Judges call target v
  · obtain ⟨target, v, judges⟩ := covered
    rw [judges.checkPayment_eq, (judges.followedBy more).checkPayment_eq]
    exact .nothing _
  · rw [checkPayment_followedBy covered, not_not.1 (mt covered_iff.1 covered)]
    exact .judgment payload

/-- A command of an infrastructure record is judged by the first entry about it, which stays the
first with more rules behind. -/
theorem Record.gains_checkCommand {record : Record} {store : Store} {c : Command}
    (payload : record.payload = .command c) (role : record.role.store? = some store)
    (first more : RuleSet) :
    record.Gains more (.analyzed (checkCommand store c first))
      (.analyzed (checkCommand store c (first.followedBy more))) := by
  unfold checkCommand
  rw [RuleSet.command?_followedBy]
  cases first.command? store c.operation with
  | some entry => exact .nothing _
  | none =>
      rw [Option.none_or]
      cases found : more.command? store c.operation with
      | none => exact .nothing _
      | some entry =>
          have about := List.find?_some found
          exact .detection payload role (List.mem_of_find?_eq_some found) about

/-- Rules that go behind others change an outcome in no other way. -/
theorem Record.gains_followedBy (record : Record) (first more : RuleSet) :
    record.Gains more (record.analyze first) (record.analyze (first.followedBy more)) := by
  unfold analyze
  cases payload : record.payload with
  | http call => exact gains_checkPayment payload first more
  | sql query => exact .nothing _
  | command c =>
      dsimp only
      cases role : record.role.store? with
      | none => exact .nothing _
      | some store => exact gains_checkCommand payload role first more
  | uncovered => exact .nothing _

/-- Rules pass a record over: it is a call to a host that they do not cover, or a command that they
do not report. -/
inductive Record.IsPassedOver (record : Record) (rules : RuleSet) : Prop where
  | call {call : HttpCall} (payload : record.payload = .http call)
      (uncovered : record.analyze rules = .gap .uncoveredHost)
  | command {store : Store} {c : Command} (payload : record.payload = .command c)
      (role : record.role.store? = some store) (clean : record.analyze rules = .analyzed [])

/-- What rules pass over is left to those behind them. -/
theorem Record.IsPassedOver.analyze_followedBy {record : Record} {first : RuleSet}
    (passed : record.IsPassedOver first) (more : RuleSet) :
    record.analyze (first.followedBy more) = record.analyze more := by
  cases passed with
  | call payload uncovered =>
      rw [analyze_call payload] at uncovered
      have nobody := mt covered_iff.2 (not_not_intro uncovered)
      rw [analyze_call payload, analyze_call payload, checkPayment_followedBy nobody]
  | @command store c payload role clean =>
      rw [analyze_command payload role] at clean
      have silent := checkCommand_eq_nil_iff.1 (Outcome.analyzed.inj clean)
      rw [analyze_command payload role, analyze_command payload role,
        checkCommand_followedBy silent]

namespace RuleSet

/-- A rules file that replaces nothing and names no vendor or command of the library has the rules
of its own that it gives alone. Under the rules of the library with it, a record has the outcome
that it has under those of the library, except that its own rules may judge a call to an uncovered
host, or that one entry of theirs may be about a command that raised nothing. What raised a
detection keeps its outcome, whatever domains the new vendors list, and what the library passes over
has the outcome that it has under the file's own rules. -/
theorem ofToml_conserves {document : String} {file : RulesFile} {rules : RuleSet}
    (read : RulesFile.ofToml? document = some file) (accepted : ofToml document = .ok rules)
    (adds : file.OnlyAdds) :
    ∃ own, ofFile { file with replacesBuiltin := true } = .ok own ∧
      rules = builtin.followedBy own ∧
      ∀ record : Record,
        record.Gains own (record.analyze builtin) (record.analyze rules) ∧
        ((record.analyze builtin).detections ≠ [] →
          record.analyze rules = record.analyze builtin) ∧
        (record.IsPassedOver builtin → record.analyze rules = record.analyze own) := by
  obtain ⟨own, alone, rfl⟩ := exists_own_of_onlyAdds adds (ofToml_eq_ofFile read ▸ accepted)
  refine ⟨own, alone, rfl, fun record => ?_⟩
  have gains := record.gains_followedBy builtin own
  exact ⟨gains, gains.eq_of_raised, fun passed => passed.analyze_followedBy own⟩

/-- A rules file with a vendor that lists the domain of another, and with a command given twice. -/
def addingDocument : String :=
  "[[vendor]]\nprovider_name='Stripe'\nhost_allowlist=['stripe.com','acme.com']\n" ++
  "path_prefixes=['/']\nidempotency_location='header'\nkey_name='Key'\n" ++
  "[[destructive]]\nsystem='redis'\ncommand='SHUTDOWN'\ncategory='x.a'\n" ++
  "title='First'\nremediation='Deny'\n" ++
  "[[destructive]]\nsystem='redis'\ncommand='shutdown'\ncategory='x.b'\n" ++
  "title='Second'\nremediation='Ask'"

/-- What that file says. -/
def addingFile : RulesFile where
  replacesBuiltin := false
  vendors := [⟨"Stripe", ["stripe.com", "acme.com"], ["/"], .header, "Key", []⟩]
  commands := [
    ⟨.redis, "SHUTDOWN", "x.a", .blocker, "First", "Deny"⟩,
    ⟨.redis, "shutdown", "x.b", .blocker, "Second", "Ask"⟩]

/-- A payment that carries the key of the new vendor, but not that of the library's. -/
def rekeyedRecord : Record where
  line := 1
  traceId := none
  role := .http
  payload := .http ⟨"POST", "tcp://api.stripe.com/v1/charges", [("Key", .string "a")], none⟩

/-- The payment stays reported. -/
theorem addingDocument_conserves :
    RulesFile.ofToml? addingDocument = some addingFile ∧ addingFile.OnlyAdds ∧
    ∃ rules, ofToml addingDocument = .ok rules ∧
      (rekeyedRecord.analyze builtin).detections ≠ [] ∧
      rekeyedRecord.analyze rules = rekeyedRecord.analyze builtin := by
  have read : RulesFile.ofToml? addingDocument = some addingFile := by decide +kernel
  have adds : addingFile.OnlyAdds := ⟨rfl, by decide +kernel, by decide +kernel⟩
  have raised : (rekeyedRecord.analyze builtin).detections ≠ [] := by decide +kernel
  have faultless : addingFile.errors.head? = none := by decide +kernel
  obtain ⟨rules, accepted⟩ : ∃ rules, ofToml addingDocument = .ok rules := by
    rw [ofToml_eq_ofFile read, ofFile_eq_elim, faultless]
    exact ⟨_, rfl⟩
  obtain ⟨own, _, _, conserved⟩ := ofToml_conserves read accepted adds
  exact ⟨read, adds, rules, accepted, raised, (conserved rekeyedRecord).2.1 raised⟩

end RuleSet
end TraceAudit
