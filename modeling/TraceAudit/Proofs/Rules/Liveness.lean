import Mathlib.Data.List.TakeWhile
import TraceAudit.Analysis.Command
import TraceAudit.Proofs.Rules.Merge
import TraceAudit.Proofs.Text.Words

/-!
# Entries that can be raised

A command is looked up by its bare name: what stands after the last dot or colon, without a call's
parentheses. An entry of the table whose own name is bare is raised by exactly that command. An
entry with a dot, a colon or a call's parentheses in its name is accepted, but no command is ever
found to be the one that it names.
-/

namespace TraceAudit

/-- A name without a qualifier and without the parentheses of a call. -/
def IsBareName (name : List Char) : Prop :=
  '.' ∉ name ∧ ':' ∉ name ∧ ¬ ['(', ')'] <:+ name

instance (name : List Char) : Decidable (IsBareName name) :=
  inferInstanceAs (Decidable (_ ∧ _ ∧ _))

theorem dropCalls_suffix (cs : List Char) : dropCalls cs <:+ cs := by
  fun_induction dropCalls cs with
  | case1 rest ih => exact ih.trans ⟨[')', '('], rfl⟩
  | case2 cs _ => exact List.suffix_refl cs

theorem dropCalls_not_call (cs : List Char) : ¬ [')', '('] <+: dropCalls cs := by
  fun_induction dropCalls cs with
  | case1 rest ih => exact ih
  | case2 cs other =>
      rintro ⟨rest, rfl⟩
      exact other rest rfl

theorem dropCalls_of_not_call {cs : List Char} (bare : ¬ [')', '('] <+: cs) :
    dropCalls cs = cs := by
  fun_cases dropCalls cs with
  | case1 rest => exact absurd ⟨rest, rfl⟩ bare
  | case2 => rfl

theorem call_suffix_iff (name : List Char) :
    ['(', ')'] <:+ name ↔ [')', '('] <+: name.reverse := by
  rw [← List.reverse_prefix]
  rfl

/-- The name of an operation is bare. -/
theorem isBareName_operationChars (name : List Char) : IsBareName (operationChars name) := by
  have kept (c : Char) (found : c ∈ operationChars name) : (!(c == '.' || c == ':')) = true := by
    have within := (dropCalls_suffix _).subset (List.mem_reverse.1 found)
    exact List.mem_takeWhile_imp (p := fun c => !(c == '.' || c == ':')) within
  refine ⟨fun dot => ?_, fun colon => ?_, fun call => ?_⟩
  · exact absurd (kept '.' dot) (by decide)
  · exact absurd (kept ':' colon) (by decide)
  · rw [call_suffix_iff, operationChars, List.reverse_reverse] at call
    exact dropCalls_not_call _ call

/-- A bare name is that of its operation. -/
theorem operationChars_of_isBareName {name : List Char} (bare : IsBareName name) :
    operationChars name = name := by
  obtain ⟨no_dot, no_colon, no_call⟩ := bare
  have unqualified : name.reverse.takeWhile (fun c => !(c == '.' || c == ':')) = name.reverse := by
    refine List.takeWhile_eq_self_iff.2 fun c found => ?_
    have there := List.mem_reverse.1 found
    have dot : c ≠ '.' := fun same => no_dot (same ▸ there)
    have colon : c ≠ ':' := fun same => no_colon (same ▸ there)
    simp [dot, colon]
  have uncalled : ¬ [')', '('] <+: name.reverse := fun call =>
    no_call ((call_suffix_iff name).2 call)
  rw [operationChars, unqualified, dropCalls_of_not_call uncalled, List.reverse_reverse]

/-! ## Case does not matter to a bare name -/

/-- A character before the capital letters is no letter in either case. -/
theorem toLower_eq_iff {c d : Char} (before : d.val < 'A'.val) : c.toLower = d ↔ c = d := by
  by_cases capital : c.val ≥ 'A'.val ∧ c.val ≤ 'Z'.val
  · obtain ⟨least, greatest⟩ := capital
    have small : c.toLower.val = c.val + 32 := congrArg Char.val (dif_pos ⟨least, greatest⟩)
    rw [ge_iff_le, UInt32.le_iff_toNat_le] at least
    rw [UInt32.le_iff_toNat_le] at greatest
    refine iff_of_false ?_ ?_
    · rintro rfl
      rw [small, UInt32.lt_iff_toNat_lt, UInt32.toNat_add] at before
      grind
    · rintro rfl
      rw [UInt32.lt_iff_toNat_lt] at before
      omega
  · have same : c.toLower = c := dif_neg capital
    rw [same]

theorem mem_map_toLower {d : Char} (before : d.val < 'A'.val) (name : List Char) :
    d ∈ name.map Char.toLower ↔ d ∈ name := by
  simp [List.mem_map, toLower_eq_iff before]

theorem call_suffix_map_toLower (name : List Char) :
    ['(', ')'] <:+ name.map Char.toLower ↔ ['(', ')'] <:+ name := by
  constructor
  · rintro ⟨before, same⟩
    obtain ⟨first, last, rfl, _, call⟩ := List.append_eq_map_iff.1 same
    obtain ⟨c, rest, rfl, opened, call⟩ := List.map_eq_cons_iff.1 call
    obtain ⟨d, rest, rfl, closed, call⟩ := List.map_eq_cons_iff.1 call
    rw [List.map_eq_nil_iff.1 call, (toLower_eq_iff (by decide)).1 opened,
      (toLower_eq_iff (by decide)).1 closed]
    exact List.suffix_append first _
  · rintro ⟨before, rfl⟩
    rw [List.map_append]
    exact List.suffix_append _ _

theorem isBareName_map_toLower (name : List Char) :
    IsBareName (name.map Char.toLower) ↔ IsBareName name := by
  rw [IsBareName, IsBareName, mem_map_toLower (by decide), mem_map_toLower (by decide),
    call_suffix_map_toLower]

/-- Names that differ at most in case are both bare or both not. -/
theorem isBareName_congr {first second : String} (same : Text.lower first = Text.lower second) :
    IsBareName first.toList ↔ IsBareName second.toList := by
  have chars := String.ofList_injective same
  rw [← isBareName_map_toLower, chars, isBareName_map_toLower]

/-! ## Commands that entries name -/

namespace CommandRule

/-- The command of an entry without a fault is one word. -/
theorem words_command {entry : CommandRule} (faultless : entry.fault? = none) :
    Text.words entry.command = [entry.command] := by
  unfold fault? at faultless
  split at faultless
  · cases faultless
  · rename_i word
    rw [Bool.or_eq_true, not_or, List.any_eq_true] at word
    have nonempty : entry.command.toList ≠ [] := by
      simpa [String.isEmpty_iff] using word.1
    have unbroken (c : Char) (found : c ∈ entry.command.toList) : Text.isBlank c = false :=
      Bool.eq_false_iff.2 fun blank => word.2 ⟨c, found, blank⟩
    rw [Text.words, Text.wordChars_of_isWord ⟨nonempty, unbroken⟩, List.map_singleton,
      String.ofList_toList]

/-- The operation of the command that an entry names. -/
theorem operation_command {entry : CommandRule} (faultless : entry.fault? = none)
    (target : Option String) :
    (⟨entry.command, target⟩ : Command).operation =
      String.ofList (operationChars entry.command.toList) := by
  rw [Command.operation, Command.name, words_command faultless]
  rfl

end CommandRule

theorem checkCommand_eq_nil_iff {store : Store} {c : Command} {rules : RuleSet} :
    checkCommand store c rules = [] ↔ rules.command? store c.operation = none := by
  unfold checkCommand
  cases rules.command? store c.operation <;> simp

/-- A command raises one rule exactly if the entry that is found for it has that rule. -/
theorem checkCommand_raises_iff {store : Store} {c : Command} {rules : RuleSet} {rule : Rule} :
    (∃ d, checkCommand store c rules = [d] ∧ d.rule = rule) ↔
      ∃ entry, rules.command? store c.operation = some entry ∧ entry.rule = rule := by
  unfold checkCommand
  cases found : rules.command? store c.operation with
  | none => simp
  | some entry => simp

namespace RuleSet

/-- An entry is about an operation only if its name is bare, as all operations are. -/
theorem isBareName_of_isAbout {entry : CommandRule} {store : Store} {c : Command}
    (about : entry.isAbout store c.operation = true) : IsBareName entry.command.toList := by
  have same := congrArg Prod.snd ((entry.isAbout_iff _ _).1 about)
  rw [isBareName_congr same, Command.operation, String.toList_ofList]
  exact isBareName_operationChars _

/-- An entry with a bare name is about the operation of the command that it names. -/
theorem isAbout_operation_command {entry : CommandRule} (faultless : entry.fault? = none)
    (bare : IsBareName entry.command.toList) (target : Option String) :
    entry.isAbout entry.store (⟨entry.command, target⟩ : Command).operation = true := by
  rw [CommandRule.operation_command faultless, operationChars_of_isBareName bare,
    String.ofList_toList, entry.isAbout_iff]
  rfl

end RuleSet

/-- The command that an entry names raises the entry's rule exactly if the name is bare, or if
another entry with the same rule is about the operation. An entry whose name is not bare is never
found, whatever the command. -/
theorem entry_raised_iff {document : String} {rules : RuleSet}
    (accepted : RuleSet.ofToml document = .ok rules) {entry : CommandRule}
    (listed : entry ∈ rules.commands) (target : Option String) :
    ((∃ d, checkCommand entry.store ⟨entry.command, target⟩ rules = [d] ∧ d.rule = entry.rule) ↔
      IsBareName entry.command.toList ∨
        ∃ twin ∈ rules.commands, twin ≠ entry ∧
          twin.isAbout entry.store (String.ofList (operationChars entry.command.toList)) = true ∧
          twin.rule = entry.rule) ∧
    ((∃ c : Command, rules.command? entry.store c.operation = some entry) ↔
      IsBareName entry.command.toList) := by
  have sound := RuleSet.soundCommands_ofToml accepted
  have faultless := sound.faultless entry listed
  rw [checkCommand_raises_iff, ← CommandRule.operation_command faultless target]
  simp only [sound.command?_eq_some_iff]
  refine ⟨⟨?_, ?_⟩, ?_, ?_⟩
  · rintro ⟨found, ⟨there, about⟩, same⟩
    by_cases itself : found = entry
    · exact .inl (RuleSet.isBareName_of_isAbout (itself ▸ about))
    · exact .inr ⟨found, there, itself, about, same⟩
  · rintro (bare | ⟨twin, there, _, about, same⟩)
    · exact ⟨entry, ⟨listed, RuleSet.isAbout_operation_command faultless bare target⟩, rfl⟩
    · exact ⟨twin, ⟨there, about⟩, same⟩
  · rintro ⟨c, _, about⟩
    exact RuleSet.isBareName_of_isAbout about
  · intro bare
    exact ⟨⟨entry.command, target⟩, listed,
      RuleSet.isAbout_operation_command faultless bare target⟩

/-- The entry for the wiping of a cache is raised by its command. -/
theorem flushall_raised :
    ∃ d, checkCommand .redis ⟨"FLUSHALL", none⟩ .builtin = [d] ∧
      d.rule.id = "infra.cache-flush-all" := by
  have accepted : RuleSet.ofToml "" = .ok .builtin := by decide +kernel
  have listed : RuleSet.builtinCommands.head (by decide) ∈ RuleSet.builtin.commands :=
    List.head_mem _
  obtain ⟨d, raised, same⟩ := (entry_raised_iff accepted listed none).1.2 (.inl (by decide))
  exact ⟨d, raised, congrArg Rule.id same⟩

/-- A rules file with a command that has a dot in its name. -/
def dottedDocument : String :=
  "[[destructive]]\nsystem='redis'\ncommand='JSON.DEL'\ncategory='infra.json'\n" ++
  "title='Delete'\nremediation='Deny'"

/-- The entry of that file. -/
def dottedEntry : CommandRule where
  store := .redis
  command := "JSON.DEL"
  category := "infra.json"
  severity := .blocker
  title := "Delete"
  remediation := "Deny"

/-- A command with a dot in its name is accepted, but raises nothing. -/
theorem dotted_command_passes :
    ∃ rules, RuleSet.ofToml dottedDocument = .ok rules ∧ dottedEntry ∈ rules.commands ∧
      checkCommand .redis ⟨"JSON.DEL", none⟩ rules = [] := by
  have accepted : RuleSet.ofToml dottedDocument =
      .ok ⟨RuleSet.builtinVendors, RuleSet.builtinCommands ++ [dottedEntry]⟩ := by
    decide +kernel
  exact ⟨_, accepted, by decide, by decide +kernel⟩

end TraceAudit
