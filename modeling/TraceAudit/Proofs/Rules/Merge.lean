import Mathlib.Data.List.Nodup
import TraceAudit.Proofs.Steps
import TraceAudit.Rules.Data

/-!
# Tables of accepted rules

Adding the entries of a file to a table keeps the keys of the table distinct and admits only entries
without a fault. So in every accepted rule set there is one entry at most about a command, and it is
found.
-/

namespace TraceAudit

namespace RuleSet

variable {α κ : Type}

/-- An entry of a table after an addition was there before or is the one added. -/
theorem mem_put {replaces : α → α → Bool} {entry other : α} {entries : List α}
    (found : other ∈ put replaces entry entries) : other = entry ∨ other ∈ entries := by
  induction entries with
  | nil => exact .inl (List.mem_singleton.1 found)
  | cons old rest ih =>
      unfold put at found
      split at found
      · rcases List.mem_cons.1 found with rfl | kept
        · exact .inl rfl
        · exact .inr (List.mem_cons_of_mem old kept)
      · rcases List.mem_cons.1 found with rfl | later
        · exact .inr List.mem_cons_self
        · exact (ih later).imp_right (List.mem_cons_of_mem old)

theorem mem_put_self {replaces : α → α → Bool} {entry : α} {entries : List α} :
    entry ∈ put replaces entry entries := by
  induction entries with
  | nil => exact List.mem_singleton_self entry
  | cons old rest ih =>
      unfold put
      split
      · exact List.mem_cons_self
      · exact List.mem_cons_of_mem old ih

/-- An addition keeps the keys of a table in their places, and appends one that is new. -/
theorem map_key_put [DecidableEq κ] {replaces : α → α → Bool} {key : α → κ} {entry : α}
    (same : ∀ old, replaces entry old = true ↔ key old = key entry) (entries : List α) :
    (put replaces entry entries).map key =
      if key entry ∈ entries.map key then entries.map key
      else entries.map key ++ [key entry] := by
  induction entries with
  | nil => rfl
  | cons old rest ih =>
      unfold put
      by_cases replaced : key old = key entry
      · rw [if_pos ((same old).2 replaced)]
        simp [replaced]
      · rw [if_neg (fun h => replaced ((same old).1 h)), List.map_cons, ih, List.map_cons]
        by_cases there : key entry ∈ rest.map key
        · rw [if_pos there, if_pos (List.mem_cons_of_mem _ there)]
        · have absent : key entry ∉ key old :: rest.map key :=
            List.not_mem_cons_of_ne_of_not_mem (Ne.symm replaced) there
          rw [if_neg there, if_neg absent, List.cons_append]

/-- Distinct keys stay distinct. -/
theorem nodup_map_key_put [DecidableEq κ] {replaces : α → α → Bool} {key : α → κ} {entry : α}
    (same : ∀ old, replaces entry old = true ↔ key old = key entry) {entries : List α}
    (distinct : (entries.map key).Nodup) : ((put replaces entry entries).map key).Nodup := by
  rw [map_key_put same]
  split
  · exact distinct
  · rename_i absent
    rw [List.nodup_append]
    refine ⟨distinct, List.nodup_singleton _, fun a there b new => ?_⟩
    rw [List.mem_singleton.1 new]
    exact fun equal => absent (equal ▸ there)

/-- Where keys are distinct, an addition leaves no other entry with its key. -/
theorem mem_put_of_nodup [DecidableEq κ] {replaces : α → α → Bool} {key : α → κ}
    {entry other : α} (same : ∀ old, replaces entry old = true ↔ key old = key entry)
    {entries : List α} (distinct : (entries.map key).Nodup)
    (found : other ∈ put replaces entry entries) :
    other = entry ∨ other ∈ entries ∧ key other ≠ key entry := by
  rcases mem_put found with rfl | kept
  · exact .inl rfl
  · by_cases apart : key other = key entry
    · refine .inl ?_
      have there : entry ∈ put replaces entry entries := mem_put_self
      exact List.inj_on_of_nodup_map (nodup_map_key_put same distinct) found there apart
    · exact .inr ⟨kept, apart⟩

/-- Where keys are distinct, looking for the key of an entry finds the entry. -/
theorem find?_of_nodup {key : α → κ} {entries : List α} {p : α → Bool} {entry : α}
    (distinct : (entries.map key).Nodup) (listed : entry ∈ entries) (holds : p entry = true)
    (only : ∀ other ∈ entries, p other = true → key other = key entry) :
    entries.find? p = some entry := by
  cases found : entries.find? p with
  | none => exact absurd holds (List.find?_eq_none.1 found entry listed)
  | some other =>
      have there := List.mem_of_find?_eq_some found
      have same := only other there (List.find?_some found)
      rw [List.inj_on_of_nodup_map distinct there listed same]

end RuleSet

/-- The key of a command: its store, and its name without regard to case. -/
def CommandRule.key (c : CommandRule) : Store × String :=
  (c.store, Text.lower c.command)

theorem CommandRule.isAbout_iff (c : CommandRule) (store : Store) (command : String) :
    c.isAbout store command = true ↔ c.key = (store, Text.lower command) := by
  simp [isAbout, key, Text.sameIgnoringCase]

namespace RuleSet

/-- No command of the table has a fault, and no two have one key. -/
structure SoundCommands (rules : RuleSet) : Prop where
  faultless : ∀ c ∈ rules.commands, c.fault? = none
  distinct : (rules.commands.map CommandRule.key).Nodup

theorem soundCommands_empty : empty.SoundCommands :=
  ⟨fun _ listed => absurd listed List.not_mem_nil, List.nodup_nil⟩

theorem soundCommands_builtin : builtin.SoundCommands :=
  ⟨by decide +kernel, by decide +kernel⟩

theorem SoundCommands.addVendor {rules after : RuleSet} {v : Vendor} (sound : rules.SoundCommands)
    (added : rules.addVendor v = .ok after) : after.SoundCommands := by
  unfold RuleSet.addVendor at added
  split at added
  · cases added
  · rw [← Except.ok.inj added]
    exact ⟨sound.faultless, sound.distinct⟩

theorem SoundCommands.addCommand {rules after : RuleSet} {c : CommandRule}
    (sound : rules.SoundCommands) (added : rules.addCommand c = .ok after) :
    after.SoundCommands := by
  unfold RuleSet.addCommand at added
  split at added
  · cases added
  · rename_i faultless
    rw [← Except.ok.inj added]
    refine ⟨fun other listed => ?_, nodup_map_key_put (fun old => ?_) sound.distinct⟩
    · rcases mem_put listed with rfl | kept
      · exact faultless
      · exact sound.faultless other kept
    · rw [CommandRule.isAbout_iff]
      rfl

/-- What holds of the tables that a file may start from, and is kept by each of its entries, holds of
every accepted document. -/
theorem ofToml_induction {motive : RuleSet → Prop} (on_empty : motive empty)
    (on_builtin : motive builtin)
    (on_vendor : ∀ {rules after v}, addVendor rules v = .ok after → motive rules → motive after)
    (on_command : ∀ {rules after c}, addCommand rules c = .ok after → motive rules → motive after)
    {document : String} {rules : RuleSet} (accepted : ofToml document = .ok rules) :
    motive rules := by
  unfold ofToml at accepted
  split at accepted
  · cases accepted
  · rename_i file _
    obtain ⟨withVendors, vendors_added, commands_added⟩ := bind_eq_ok_iff.1 accepted
    have base : motive (if file.replacesBuiltin then empty else builtin) := by
      split
      · exact on_empty
      · exact on_builtin
    have before := foldlM_preserves motive (fun _ _ _ _ added => on_vendor added) vendors_added base
    exact foldlM_preserves motive (fun _ _ _ _ added => on_command added) commands_added before

/-- The commands of an accepted document are sound. -/
theorem soundCommands_ofToml {document : String} {rules : RuleSet}
    (accepted : ofToml document = .ok rules) : rules.SoundCommands :=
  ofToml_induction soundCommands_empty soundCommands_builtin
    (fun added sound => sound.addVendor added) (fun added sound => sound.addCommand added) accepted

/-- No command of the table takes a category of the fixed rules. -/
theorem SoundCommands.category_not_mem {rules : RuleSet} (sound : rules.SoundCommands)
    {entry : CommandRule} (listed : entry ∈ rules.commands) :
    entry.category ∉ builtinCategories := by
  intro taken
  have faultless := sound.faultless entry listed
  have fault : entry.fault? ≠ none := by
    unfold CommandRule.fault?
    rw [List.contains_iff_mem.2 taken]
    split
    · simp
    · split <;> simp
  exact fault faultless

/-- The entry about an operation is found, there being no other. -/
theorem SoundCommands.command?_eq_some_iff {rules : RuleSet} (sound : rules.SoundCommands)
    {store : Store} {operation : String} {entry : CommandRule} :
    rules.command? store operation = some entry ↔
      entry ∈ rules.commands ∧ entry.isAbout store operation = true := by
  constructor
  · intro found
    have about := List.find?_some found
    exact ⟨List.mem_of_find?_eq_some found, about⟩
  · rintro ⟨listed, about⟩
    refine find?_of_nodup sound.distinct listed about fun other _ also_about => ?_
    rw [(other.isAbout_iff _ _).1 also_about, (entry.isAbout_iff _ _).1 about]

end RuleSet
end TraceAudit
