import Mathlib.Data.List.Induction
import TraceAudit.Proofs.Rules.Vendors

/-!
# Rules files over tables

A rules file is laid over the tables that it starts from. The keys of a table stay in their places
and the new keys of the file follow in the order in which they first appear; each key has the last
entry that the file gives it, or else its entry in the base. One entry with a fault makes the file
void, with the error of the first such entry, vendors before commands.
-/

namespace TraceAudit

/-! ## Tables by key -/

namespace RuleSet

variable {α κ : Type} [DecidableEq κ]

/-- The last of some entries with a key. -/
def latest? (key : α → κ) (entries : List α) (k : κ) : Option α :=
  entries.reverse.find? (key · = k)

/-- The keys of entries that a base is without, in the order in which they first appear. -/
def newKeys (key : α → κ) (base entries : List α) : List κ :=
  ((entries.map key).filter (· ∉ base.map key)).eraseDups

/-- What a key has once entries are laid over a base: the last entry, or else that of the base. -/
def overlaid? (key : α → κ) (base entries : List α) (k : κ) : Option α :=
  (latest? key entries k).or (base.find? (key · = k))

/-- A table is a base with entries laid over it. -/
structure LaidOver (key : α → κ) (base entries table : List α) : Prop where
  keys : table.map key = base.map key ++ newKeys key base entries
  slots : ∀ entry ∈ table, overlaid? key base entries (key entry) = some entry

variable {key : α → κ} {base entries table : List α}

theorem latest?_append (entry : α) (k : κ) :
    latest? key (entries ++ [entry]) k =
      if key entry = k then some entry else latest? key entries k := by
  unfold latest?
  rw [List.reverse_append, List.reverse_singleton, List.singleton_append, List.find?_cons]
  by_cases same : key entry = k <;> simp [same]

theorem mem_newKeys {k : κ} :
    k ∈ newKeys key base entries ↔ k ∈ entries.map key ∧ k ∉ base.map key := by
  simp [newKeys, List.mem_eraseDups]

theorem removeAll_singleton (k : κ) (others : List κ) :
    [k].removeAll others = if k ∈ others then [] else [k] := by
  unfold List.removeAll
  by_cases found : k ∈ others <;> simp [found]

/-- One entry more adds its key at the end, unless the base or an entry before has it. -/
theorem newKeys_append (entry : α) :
    newKeys key base (entries ++ [entry]) =
      if key entry ∈ base.map key ++ newKeys key base entries then newKeys key base entries
      else newKeys key base entries ++ [key entry] := by
  unfold newKeys
  rw [List.map_append, List.filter_append, List.eraseDups_append, List.map_singleton]
  by_cases inBase : key entry ∈ base.map key
  · rw [if_pos (List.mem_append_left _ inBase), List.filter_cons_of_neg (by simpa using inBase)]
    simp [List.removeAll]
  · rw [List.filter_cons_of_pos (by simpa using inBase), List.filter_nil, removeAll_singleton]
    by_cases before : key entry ∈ (entries.map key).filter (· ∉ base.map key)
    · rw [if_pos before, if_pos (List.mem_append_right _ (List.mem_eraseDups.2 before)),
        List.eraseDups_nil, List.append_nil]
    · have absent : key entry ∉
          base.map key ++ ((entries.map key).filter (· ∉ base.map key)).eraseDups := fun found =>
        (List.mem_append.1 found).elim inBase fun new => before (List.mem_eraseDups.1 new)
      rw [if_neg before, if_neg absent, List.eraseDups_cons, List.filter_nil, List.eraseDups_nil]

theorem laidOver_nil (distinct : (base.map key).Nodup) : LaidOver key base [] base := by
  refine ⟨by simp [newKeys], fun entry listed => ?_⟩
  refine find?_of_nodup distinct listed (by simp) fun other _ same => ?_
  simpa using same

/-- Putting one entry more into a table lays it over. -/
theorem LaidOver.put {replaces : α → α → Bool} {entry : α}
    (same : ∀ old, replaces entry old = true ↔ key old = key entry)
    (distinct : (table.map key).Nodup) (laid : LaidOver key base entries table) :
    LaidOver key base (entries ++ [entry]) (RuleSet.put replaces entry table) := by
  constructor
  · rw [map_key_put same, laid.keys, newKeys_append]
    split
    · rfl
    · rw [List.append_assoc]
  · intro other found
    unfold overlaid?
    rw [latest?_append]
    rcases mem_put_of_nodup same distinct found with rfl | ⟨kept, apart⟩
    · rw [if_pos rfl, Option.some_or]
    · rw [if_neg (Ne.symm apart)]
      exact laid.slots other kept

/-- Putting in one entry after the other lays them over the base. -/
theorem laidOver_foldl_put {replaces : α → α → Bool}
    (same : ∀ entry old, replaces entry old = true ↔ key old = key entry)
    (distinct : (base.map key).Nodup) (entries : List α) :
    LaidOver key base entries
        (entries.foldl (fun table entry => RuleSet.put replaces entry table) base) ∧
      ((entries.foldl (fun table entry => RuleSet.put replaces entry table) base).map
        key).Nodup := by
  -- By induction from the last entry, which goes into the table of those before it.
  induction entries using List.reverseRecOn with
  | nil => exact ⟨laidOver_nil distinct, distinct⟩
  | append_singleton before entry ih =>
      obtain ⟨laid, unique⟩ := ih
      rw [List.foldl_append]
      exact ⟨laid.put (same entry) unique, nodup_map_key_put (same entry) unique⟩

theorem find?_key_eq_none_iff {k : κ} : base.find? (key · = k) = none ↔ k ∉ base.map key := by
  simp

theorem latest?_eq_none_iff {k : κ} : latest? key entries k = none ↔ k ∉ entries.map key := by
  simp [latest?]

/-- Looking a key up in a table gives what the key has once the entries are laid over the base. -/
theorem LaidOver.find?_eq (laid : LaidOver key base entries table) (k : κ) :
    table.find? (key · = k) = overlaid? key base entries k := by
  cases found : table.find? (key · = k) with
  | some entry =>
      have there := List.mem_of_find?_eq_some found
      have same : key entry = k := by simpa using List.find?_some found
      rw [← same, laid.slots entry there]
  | none =>
      have absent := find?_key_eq_none_iff.1 found
      rw [laid.keys, List.mem_append, not_or, mem_newKeys] at absent
      obtain ⟨not_in_base, not_new⟩ := absent
      have not_given : k ∉ entries.map key := fun given => not_new ⟨given, not_in_base⟩
      rw [overlaid?, latest?_eq_none_iff.2 not_given, find?_key_eq_none_iff.2 not_in_base,
        Option.none_or]

end RuleSet

/-! ## Rules files -/

namespace RulesFile

/-- The tables that a file is laid over. -/
def base (file : RulesFile) : RuleSet :=
  if file.replacesBuiltin then .empty else .builtin

/-- The errors of all entries with a fault, vendors before commands. -/
def errors (file : RulesFile) : List RulesError :=
  file.vendors.filterMap (fun v => v.fault?.map (.vendor v.provider)) ++
    file.commands.filterMap fun c => c.fault?.map (.command c.command)

end RulesFile

namespace RuleSet

theorem distinct_base (file : RulesFile) :
    (file.base.vendors.map Vendor.provider).Nodup ∧
      (file.base.commands.map CommandRule.key).Nodup := by
  unfold RulesFile.base
  cases file.replacesBuiltin with
  | true => exact ⟨List.nodup_nil, List.nodup_nil⟩
  | false => exact ⟨soundVendors_builtin.distinct, soundCommands_builtin.distinct⟩

theorem addVendor_eq_elim (rules : RuleSet) (v : Vendor) :
    rules.addVendor v = (v.fault?.map (RulesError.vendor v.provider)).elim
      (.ok (rules.putVendor v.normalized)) .error := by
  unfold addVendor
  cases v.fault? with
  | none => rfl
  | some fault => rfl

theorem addCommand_eq_elim (rules : RuleSet) (c : CommandRule) :
    rules.addCommand c = (c.fault?.map (RulesError.command c.command)).elim
      (.ok (rules.putCommand c)) .error := by
  unfold addCommand
  cases c.fault? with
  | none => rfl
  | some fault => rfl

/-- A file gives the error of its first entry with a fault, or else all entries are put in. -/
theorem ofFile_eq_elim (file : RulesFile) :
    ofFile file = file.errors.head?.elim
      (.ok (file.commands.foldl putCommand
        (file.vendors.foldl (fun rules v => rules.putVendor v.normalized) file.base))) .error := by
  have vendors := foldlM_eq_elim addVendor_eq_elim file.vendors file.base
  have commands := foldlM_eq_elim addCommand_eq_elim file.commands
  have steps : ofFile file = file.vendors.foldlM addVendor file.base >>=
      file.commands.foldlM addCommand := rfl
  rw [steps, vendors, RulesFile.errors, List.head?_append]
  cases (file.vendors.filterMap fun v => v.fault?.map (RulesError.vendor v.provider)).head? with
  | some e => rfl
  | none => exact commands _

/-- Putting vendors in changes the table of vendors only. -/
theorem foldl_putVendor (vendors : List Vendor) (rules : RuleSet) :
    vendors.foldl (fun rules v => rules.putVendor v.normalized) rules =
      { rules with
        vendors := (vendors.map Vendor.normalized).foldl
          (fun table v => put (·.provider == ·.provider) v table) rules.vendors } := by
  induction vendors generalizing rules with
  | nil => rfl
  | cons v rest ih => exact ih (rules.putVendor v.normalized)

/-- Putting commands in changes the table of commands only. -/
theorem foldl_putCommand (commands : List CommandRule) (rules : RuleSet) :
    commands.foldl putCommand rules =
      { rules with
        commands := commands.foldl
          (fun table c => put (fun new old => old.isAbout new.store new.command) c table)
          rules.commands } := by
  induction commands generalizing rules with
  | nil => rfl
  | cons c rest ih => exact ih (rules.putCommand c)

/-- The rule about a command is the one that its key has. -/
theorem command?_eq_find? (rules : RuleSet) (store : Store) (command : String) :
    rules.command? store command =
      rules.commands.find? (CommandRule.key · = (store, Text.lower command)) := by
  unfold command?
  congr 1
  funext c
  rw [Bool.eq_iff_iff, decide_eq_true_eq]
  exact c.isAbout_iff store command

/-- What a rules file gives that can be read: the error of the first entry with a fault, vendors
before commands; or, if no entry has one, the base tables with the entries laid over them, in which
keys are distinct, so that a command is looked up to the last entry of the file that is about it. -/
theorem ofToml_overlays {document : String} {file : RulesFile}
    (read : RulesFile.ofToml? document = some file) :
    (∀ e, ofToml document = .error e ↔ file.errors.head? = some e) ∧
    (file.errors = [] → ∃ rules, ofToml document = .ok rules ∧
      LaidOver Vendor.provider file.base.vendors (file.vendors.map Vendor.normalized)
        rules.vendors ∧
      LaidOver CommandRule.key file.base.commands file.commands rules.commands ∧
      (rules.vendors.map Vendor.provider).Nodup ∧
      (rules.commands.map CommandRule.key).Nodup ∧
      ∀ store command, rules.command? store command =
        (latest? CommandRule.key file.commands (store, Text.lower command)).or
          (file.base.command? store command)) := by
  obtain ⟨base_vendors, base_commands⟩ := distinct_base file
  have merged : ofToml document = ofFile file := by
    unfold ofToml
    rw [read]
  have same_provider (entry old : Vendor) :
      (entry.provider == old.provider) = true ↔ old.provider = entry.provider := by
    rw [beq_iff_eq, eq_comm]
  have same_key (entry old : CommandRule) :
      old.isAbout entry.store entry.command = true ↔ old.key = entry.key :=
    old.isAbout_iff entry.store entry.command
  rw [merged, ofFile_eq_elim]
  constructor
  · intro e
    cases file.errors.head? with
    | some first => simp
    | none => simp
  · intro faultless
    rw [faultless, List.head?_nil, Option.elim_none, foldl_putVendor, foldl_putCommand]
    obtain ⟨vendors, distinct_vendors⟩ :=
      laidOver_foldl_put same_provider base_vendors (file.vendors.map Vendor.normalized)
    obtain ⟨commands, distinct_commands⟩ :=
      laidOver_foldl_put same_key base_commands file.commands
    refine ⟨_, rfl, vendors, commands, distinct_vendors, distinct_commands, fun store command => ?_⟩
    rw [command?_eq_find?, commands.find?_eq, command?_eq_find?]
    rfl

/-- A rules file that gives a command of the library twice more, in other letters. -/
def repeatedDocument : String :=
  "[[destructive]]\nsystem='redis'\ncommand='flushAll'\ncategory='x.a'\n" ++
  "title='First'\nremediation='Deny'\n" ++
  "[[destructive]]\nsystem='redis'\ncommand='flushall'\ncategory='x.b'\n" ++
  "title='Second'\nremediation='Ask'"

/-- What that file says. -/
def repeatedFile : RulesFile where
  replacesBuiltin := false
  vendors := []
  commands := [
    ⟨.redis, "flushAll", "x.a", .blocker, "First", "Deny"⟩,
    ⟨.redis, "flushall", "x.b", .blocker, "Second", "Ask"⟩]

/-- The last entry about a command stands, in the place of the first. -/
theorem repeatedDocument_overlays :
    RulesFile.ofToml? repeatedDocument = some repeatedFile ∧ repeatedFile.errors = [] ∧
    ∃ rules, ofToml repeatedDocument = .ok rules ∧
      rules.commands.map CommandRule.key = [(.redis, "flushall"), (.redis, "flushdb"),
        (.mongo, "dropdatabase"), (.s3, "deletebucket")] ∧
      rules.command? .redis "FLUSHALL" =
        some ⟨.redis, "flushall", "x.b", .blocker, "Second", "Ask"⟩ := by
  have read : RulesFile.ofToml? repeatedDocument = some repeatedFile := by decide +kernel
  have faultless : repeatedFile.errors = [] := by decide +kernel
  obtain ⟨rules, accepted, _, commands, _, _, found⟩ := (ofToml_overlays read).2 faultless
  refine ⟨read, faultless, rules, accepted, ?_, ?_⟩
  · rw [commands.keys]
    decide
  · rw [found]
    decide

end RuleSet
end TraceAudit
