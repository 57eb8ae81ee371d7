import TraceAudit.Proofs.Json.RoundTrip
import TraceAudit.Proofs.Json.Shapes

/-!
# Objects of texts

An object all of whose values are texts is read from the text on one line that it is written as. As
data it has each of its names once, with the value that was written last.
-/

namespace TraceAudit.Json

/-! ## Texts on one line -/

/-- Names and texts as members. -/
def textMembers (fields : List (String × String)) : List (String × Json) :=
  fields.map fun field => (field.1, .string field.2)

/-- A member is its name, a colon and its text. -/
theorem lexed_textMember (name value : String) {cs : List Char} {ts : List Token}
    (later : Lexed cs ts) :
    Lexed (quote name ++ ':' :: (quote value ++ cs))
      (.string name :: .colon :: .string value :: ts) :=
  .quote name (.token rfl rfl (Nat.le_refl _) (.quote value later))

theorem lexed_compactMembers (fields : List (String × String)) :
    Lexed (compactMembers false (textMembers fields)) (memberTokens (textMembers fields)) := by
  induction fields with
  | nil => exact .token rfl rfl (Nat.le_refl _) .nil
  | cons field rest ih =>
      have member := lexed_textMember field.1 field.2 ih
      simp only [textMembers, List.map_cons, compactMembers, memberTokens, tokens, compactChars,
        Bool.false_eq_true, if_false, List.append_assoc, List.cons_append, List.nil_append]
      exact .token rfl rfl (Nat.le_refl _) member

theorem lexed_compact (fields : List (String × String)) :
    Lexed (compactChars (.object (textMembers fields)))
      (tokens (.object (textMembers fields))) := by
  cases fields with
  | nil => exact .token rfl rfl (Nat.le_refl _) (.token rfl rfl (Nat.le_refl _) .nil)
  | cons field rest =>
      have member := lexed_textMember field.1 field.2 (lexed_compactMembers rest)
      simp only [textMembers, List.map_cons, compactChars, compactMembers, tokens, if_true,
        List.append_assoc, List.cons_append, List.nil_append]
      exact .token rfl rfl (Nat.le_refl _) member

/-- An object of texts is read from its text on one line. -/
theorem parse?_compact_textMembers (fields : List (String × String)) :
    parse? (compact (.object (textMembers fields))) = some (.object (textMembers fields)) := by
  have fits : Fits 1 (.object (textMembers fields)) := by
    refine .object fun m there => ?_
    obtain ⟨field, _, rfl⟩ := List.mem_map.1 there
    exact .string field.2
  refine fits.parse?_of_lexed (by decide) ?_
  rw [compact, String.toList_ofList, List.append_nil]
  exact lexed_compact fields

/-! ## Other texts -/

/-- Tokens that are found come behind those that were found before. -/
theorem exists_of_scanSteps {found tokens : List Token} {steps : Nat} {cs : List Char}
    (scanned : scanSteps found steps cs = some tokens) :
    ∃ later, tokens = found.reverse ++ later := by
  induction steps generalizing found cs with
  | zero =>
      cases cs with
      | nil => exact ⟨[], by simpa [scanSteps] using scanned.symm⟩
      | cons c rest => cases scanned
  | succ steps ih =>
      cases cs with
      | nil => exact ⟨[], by simpa [scanSteps] using scanned.symm⟩
      | cons c rest =>
          rw [scanSteps] at scanned
          split at scanned
          · exact ih scanned
          · split at scanned
            · cases scanned
            · rename_i token _ _
              obtain ⟨later, rfl⟩ := ih scanned
              exact ⟨token :: later, by simp⟩

/-- Only a brace opens an object, and only a bracket an array. -/
theorem opening_of_scanToken {c : Char} {rest after : List Char} {t : Token}
    (scanned : scanToken (c :: rest) = some (t, after)) :
    (t = .openBrace → c = '{') ∧ (t = .openBracket → c = '[') := by
  unfold scanToken at scanned
  split at scanned
  all_goals
    rename_i shape
    first
    | (cases scanned; cases shape; simp)
    | (obtain ⟨_, _, made⟩ := Option.map_eq_some_iff.1 scanned; cases made; simp)

/-- A machine that starts with a token that opens nothing ends with no object, as nothing may come
after a value that is one token. -/
theorem expect_ne_object_of_run {t : Token} (no_brace : t ≠ .openBrace)
    (no_bracket : t ≠ .openBracket) {later : List Token} {m : Machine}
    (ran : Machine.start.run (t :: later) = some m) (members : List (String × Json)) :
    m.expect ≠ .nothing (.object members) := by
  have ended {v : Json} (scalar : v ≠ .object members)
      (ran : Machine.run ⟨[], .nothing v⟩ later = some m) :
      m.expect ≠ .nothing (.object members) := by
    cases later with
    | nil =>
        cases ran
        intro same
        cases same
        exact scalar rfl
    | cons next others => cases ran
  rw [Machine.run_cons] at ran
  cases t with
  | openBrace => exact absurd rfl no_brace
  | openBracket => exact absurd rfl no_bracket
  | null => exact ended Json.noConfusion ran
  | bool b => exact ended Json.noConfusion ran
  | number n => exact ended Json.noConfusion ran
  | string s => exact ended Json.noConfusion ran
  | closeBrace | closeBracket | colon | comma => cases ran

/-- A text that starts with neither a blank nor an opening mark writes no object. -/
theorem parse?_ne_object {text : String}
    (plain : ∀ c ∈ text.toList.head?, isSpace c = false ∧ c ≠ '{' ∧ c ≠ '[')
    (members : List (String × Json)) : parse? text ≠ some (.object members) := by
  intro read
  unfold parse? at read
  split at read
  · rename_i stack v ran
    obtain ⟨tokens, scanned, ran⟩ := Option.bind_eq_some_iff.1 ran
    rw [scan] at scanned
    cases shape : text.toList with
    | nil =>
        rw [shape] at scanned
        cases scanned
        cases ran
    | cons c rest =>
        obtain ⟨shown, no_brace, no_bracket⟩ := plain c (by rw [shape]; rfl)
        rw [shape, List.length_cons, scanSteps, shown, if_neg Bool.false_ne_true] at scanned
        split at scanned
        · cases scanned
        · rename_i t after first
          obtain ⟨brace, bracket⟩ := opening_of_scanToken first
          obtain ⟨later, rfl⟩ := exists_of_scanSteps scanned
          rw [Option.some.inj read] at ran
          exact expect_ne_object_of_run (mt brace no_brace) (mt bracket no_bracket) ran members rfl
  · cases read

/-! ## Members of data -/

theorem lookup_cons_eq_ite {α : Type} (key : String) (m : String × α) (rest : List (String × α)) :
    (m :: rest).lookup key = if key = m.1 then some m.2 else rest.lookup key := by
  rw [List.lookup_cons]
  by_cases same : key = m.1
  · rw [if_pos same, beq_iff_eq.2 same]
  · rw [if_neg same, beq_eq_false_iff_ne.2 same]

/-- Where no name is given twice, the order of members does not matter. -/
theorem lookup_perm {α : Type} {members others : List (String × α)} (order : members.Perm others)
    (distinct : (members.map Prod.fst).Nodup) (key : String) :
    members.lookup key = others.lookup key := by
  induction order with
  | nil => rfl
  | cons m _ ih =>
      rw [lookup_cons_eq_ite, lookup_cons_eq_ite, ih (List.nodup_cons.1 distinct).2]
  | swap m n rest =>
      have apart : n.1 ≠ m.1 := fun same =>
        (List.nodup_cons.1 distinct).1 (same ▸ List.mem_cons_self)
      simp only [lookup_cons_eq_ite]
      by_cases first : key = n.1
      · rw [if_pos first, if_neg fun second => apart (first.symm.trans second), if_pos first]
      · rw [if_neg first, if_neg first]
  | trans first _ ih₁ ih₂ =>
      exact (ih₁ distinct).trans (ih₂ ((first.map Prod.fst).nodup_iff.1 distinct))

theorem lookup_textMembers (fields : List (String × String)) (key : String) :
    (textMembers fields).lookup key = (fields.lookup key).map .string := by
  induction fields with
  | nil => rfl
  | cons field rest ih =>
      rw [textMembers, List.map_cons, lookup_cons_eq_ite, lookup_cons_eq_ite, ← textMembers, ih]
      split <;> rfl

theorem lookup_insertMember (name key : String) (value : Json) (members : List (String × Json)) :
    (insertMember name value members).lookup key =
      if key = name then some value else members.lookup key := by
  induction members with
  | nil => exact lookup_cons_eq_ite key (name, value) []
  | cons m rest ih =>
      rw [insertMember]
      split
      · exact lookup_cons_eq_ite key (name, value) (m :: rest)
      · split
        · rename_i replaced
          rw [lookup_cons_eq_ite, lookup_cons_eq_ite, replaced]
          by_cases same : key = m.1
          · rw [if_pos same, if_pos same]
          · rw [if_neg same, if_neg same, if_neg same]
        · rename_i apart
          rw [lookup_cons_eq_ite, ih, lookup_cons_eq_ite]
          by_cases first : key = m.1
          · have other : key ≠ name := fun same => apart (same.symm.trans first)
            rw [if_pos first, if_neg other, if_pos first]
          · rw [if_neg first, if_neg first]

/-- Where no name is given twice, data have the members that were written. -/
theorem lookup_canonicalMembers {members : List (String × Json)}
    (distinct : (members.map Prod.fst).Nodup) (sorted : List (String × Json)) (key : String) :
    (canonicalMembers sorted members).lookup key =
      ((members.lookup key).map canonical).or (sorted.lookup key) := by
  induction members generalizing sorted with
  | nil => rfl
  | cons m rest ih =>
      obtain ⟨new, distinct⟩ := List.nodup_cons.1 distinct
      rw [canonicalMembers, ih distinct, lookup_insertMember, lookup_cons_eq_ite]
      by_cases same : key = m.1
      · have absent : rest.lookup key = none := by
          rw [← Option.not_isSome_iff_eq_none, isSome_lookup_iff, same]
          exact new
        rw [if_pos same, if_pos same, absent]
        rfl
      · rw [if_neg same, if_neg same]

end TraceAudit.Json
