import TraceAudit.Proofs.Rules.Liveness
import TraceAudit.Proofs.Rules.Overlay
import TraceAudit.Proofs.Text.Cuts
import TraceAudit.Proofs.Text.Trimming
import TraceAudit.Proofs.Text.Words

/-!
# Spellings of a command

The first word of a command may be written in other letters, after qualifiers and with the
parentheses of calls behind it, and the command may have blanks before this word and arguments after
it. None of this changes what the command raises: of all spellings the operation is the same but for
the case of its letters, and its name is what stands in the word after the last dot or colon without
the calls at its end.
-/

namespace TraceAudit

open Text (EndsWord IsWord isBlank)

/-- Whether a character stands between a qualifier and what it qualifies. -/
def IsMark (c : Char) : Prop := c = '.' ∨ c = ':'

/-- Calls of the operation before them, one after the other. -/
def calls (n : Nat) : List Char := (List.replicate n ['(', ')']).flatten

theorem calls_succ (n : Nat) : calls (n + 1) = calls n ++ ['(', ')'] := by
  rw [calls, List.replicate_succ', List.flatten_append, List.flatten_singleton]
  rfl

/-- The other ways to write a word that names an operation. -/
inductive Respelled (word : List Char) : List Char → Prop where
  | same : Respelled word word
  | recased {spelling other : List Char} (respelled : Respelled word spelling)
      (same : other.map Char.toLower = spelling.map Char.toLower) : Respelled word other
  | qualified {spelling qualifier : List Char} {mark : Char} (respelled : Respelled word spelling)
      (unbroken : ∀ c ∈ qualifier, isBlank c = false) (isMark : IsMark mark) :
      Respelled word (qualifier ++ mark :: spelling)
  | called {spelling : List Char} (respelled : Respelled word spelling) :
      Respelled word (spelling ++ ['(', ')'])

/-- The commands whose first word is written in one of these ways. -/
inductive CommandFor (word : List Char) : List Char → Prop where
  | intro {before spelling after : List Char} (blanks : ∀ c ∈ before, isBlank c = true)
      (respelled : Respelled word spelling) (ended : EndsWord after) :
      CommandFor word (before ++ (spelling ++ after))

/-- What a word names: a bare name, behind which the word only has calls, and before which it has
nothing or a qualifier with its mark. -/
structure IsOperationOf (name word : List Char) : Prop where
  bare : IsBareName name
  written : ∃ qualifier n, word = qualifier ++ (name ++ calls n) ∧
    ∀ c ∈ qualifier.getLast?, IsMark c

/-! ## The operation of a word -/

theorem isMark_iff (c : Char) : (!(c == '.' || c == ':')) = false ↔ IsMark c := by
  rw [Bool.not_eq_false', Bool.or_eq_true, beq_iff_eq, beq_iff_eq]
  rfl

/-- A qualifier does not count. -/
theorem operationChars_qualified {mark : Char} (isMark : IsMark mark)
    (qualifier name : List Char) :
    operationChars (qualifier ++ mark :: name) = operationChars name := by
  have stops := (isMark_iff mark).2 isMark
  rw [operationChars, List.reverse_append, List.reverse_cons, List.append_assoc,
    List.singleton_append, Text.takeWhile_append_stop stops]
  rfl

/-- A call does not count. -/
theorem operationChars_called (name : List Char) :
    operationChars (name ++ ['(', ')']) = operationChars name := by
  rw [operationChars, List.reverse_append]
  rfl

theorem operationChars_calls (name : List Char) (n : Nat) :
    operationChars (name ++ calls n) = operationChars name := by
  induction n with
  | zero => rw [calls, List.replicate_zero, List.flatten_nil, List.append_nil]
  | succ n ih => rw [calls_succ, ← List.append_assoc, operationChars_called, ih]

theorem dropCalls_map_toLower (cs : List Char) :
    dropCalls (cs.map Char.toLower) = (dropCalls cs).map Char.toLower := by
  fun_induction dropCalls cs with
  | case1 rest ih => exact ih
  | case2 cs other =>
      refine dropCalls_of_not_call ?_
      rintro ⟨after, same⟩
      obtain ⟨c, more, rfl, closed, same⟩ := List.map_eq_cons_iff.1 same.symm
      obtain ⟨d, rest, rfl, opened, _⟩ := List.map_eq_cons_iff.1 same
      rw [(toLower_eq_iff (by decide)).1 closed, (toLower_eq_iff (by decide)).1 opened] at other
      exact other rest rfl

/-- The operation may be taken before or after letters are made small. -/
theorem operationChars_map_toLower (word : List Char) :
    operationChars (word.map Char.toLower) = (operationChars word).map Char.toLower := by
  have same : (fun c => !(c == '.' || c == ':')) ∘ Char.toLower =
      fun c => !(c == '.' || c == ':') := by
    funext c
    have dot : c.toLower = '.' ↔ c = '.' := toLower_eq_iff (by decide)
    have colon : c.toLower = ':' ↔ c = ':' := toLower_eq_iff (by decide)
    simp only [Function.comp_apply, beq_eq_decide, dot, colon]
  rw [operationChars, operationChars, ← List.map_reverse, List.takeWhile_map, same,
    dropCalls_map_toLower, List.map_reverse]

/-- The calls at the end of a word are dropped, and nothing else is. -/
theorem exists_calls (cs : List Char) :
    ∃ n, cs.reverse = (dropCalls cs).reverse ++ calls n := by
  fun_induction dropCalls cs with
  | case1 rest ih =>
      obtain ⟨n, whole⟩ := ih
      refine ⟨n + 1, ?_⟩
      rw [List.reverse_cons, List.reverse_cons, whole, calls_succ, List.append_assoc,
        List.append_assoc]
      rfl
  | case2 cs other => exact ⟨0, (List.append_nil _).symm⟩

/-- A word names one operation, the one that is looked up. -/
theorem isOperationOf_iff {name word : List Char} :
    IsOperationOf name word ↔ name = operationChars word := by
  constructor
  · rintro ⟨bare, qualifier, n, rfl, ends⟩
    have plain : operationChars (name ++ calls n) = name := by
      rw [operationChars_calls, operationChars_of_isBareName bare]
    rcases List.eq_nil_or_concat' qualifier with rfl | ⟨front, mark, rfl⟩
    · exact plain.symm
    · have isMark : IsMark mark := ends mark List.getLast?_concat
      rw [List.append_assoc, List.singleton_append, operationChars_qualified isMark, plain]
  · rintro rfl
    refine ⟨isBareName_operationChars word, ?_⟩
    obtain ⟨n, segment⟩ :=
      exists_calls (word.reverse.takeWhile fun c => !(c == '.' || c == ':'))
    refine ⟨(word.reverse.dropWhile fun c => !(c == '.' || c == ':')).reverse, n, ?_, ?_⟩
    · rw [operationChars, ← segment, ← List.reverse_append, List.takeWhile_append_dropWhile,
        List.reverse_reverse]
    · intro c last
      rw [List.getLast?_reverse] at last
      have stops := List.head?_dropWhile_not (fun c => !(c == '.' || c == ':')) word.reverse
      rw [Option.mem_def.1 last] at stops
      exact (isMark_iff c).1 stops

/-! ## What spellings keep -/

/-- All spellings of a word have its operation, but for the case of letters. -/
theorem Respelled.operation {word spelling : List Char} (respelled : Respelled word spelling) :
    (operationChars spelling).map Char.toLower = (operationChars word).map Char.toLower := by
  induction respelled with
  | same => rfl
  | recased respelled same ih =>
      rw [← operationChars_map_toLower, same, operationChars_map_toLower, ih]
  | qualified respelled unbroken isMark ih => rw [operationChars_qualified isMark, ih]
  | called respelled ih => rw [operationChars_called, ih]

/-- All spellings of a word are words. -/
theorem Respelled.isWord {word spelling : List Char} (respelled : Respelled word spelling)
    (isWord : IsWord word) : IsWord spelling := by
  induction respelled with
  | same => exact isWord
  | @recased spelling other respelled same ih =>
      refine ⟨?_, fun c found => ?_⟩
      · rintro rfl
        exact ih.nonempty (List.map_eq_nil_iff.1 same.symm)
      · have small : c.toLower ∈ spelling.map Char.toLower := same ▸ List.mem_map_of_mem found
        obtain ⟨d, there, letters⟩ := List.mem_map.1 small
        rw [← Text.isBlank_toLower, ← letters, Text.isBlank_toLower]
        exact ih.unbroken d there
  | @qualified spelling qualifier mark respelled unbroken isMark ih =>
      refine ⟨List.append_ne_nil_of_right_ne_nil _ (List.cons_ne_nil _ _), fun c found => ?_⟩
      rcases List.mem_append.1 found with before | after
      · exact unbroken c before
      · rcases List.mem_cons.1 after with rfl | within
        · rcases isMark with rfl | rfl <;> decide
        · exact ih.unbroken c within
  | called respelled ih =>
      refine ⟨List.append_ne_nil_of_left_ne_nil ih.nonempty _, fun c found => ?_⟩
      rcases List.mem_append.1 found with within | call
      · exact ih.unbroken c within
      · have unbroken : ['(', ')'].any isBlank = false := by decide
        exact Text.any_isBlank_eq_false_iff.1 unbroken c call

/-! ## Commands in other spellings -/

/-- The operation of a command is that of its first word. -/
theorem Command.operation_ofList {before word after : List Char}
    (blanks : ∀ c ∈ before, isBlank c = true) (isWord : IsWord word) (ended : EndsWord after)
    (target : Option String) :
    (⟨String.ofList (before ++ (word ++ after)), target⟩ : Command).operation =
      String.ofList (operationChars word) := by
  rw [Command.operation, Command.name, Text.words, String.toList_ofList,
    Text.wordChars_blanks blanks, Text.wordChars_word isWord ended, List.map_cons, List.head?_cons,
    Option.getD_some, String.toList_ofList]

/-- The operation of a command that is one word. -/
theorem Command.operation_word {word : List Char} (isWord : IsWord word)
    (target : Option String) :
    (⟨String.ofList word, target⟩ : Command).operation = String.ofList (operationChars word) := by
  have unspaced : ∀ c ∈ ([] : List Char), isBlank c = true :=
    fun _ impossible => absurd impossible List.not_mem_nil
  have found := operation_ofList unspaced isWord Text.endsWord_nil target
  rwa [List.nil_append, List.append_nil] at found

/-- Commands to one target are judged alike if their operations differ at most in case. -/
theorem checkCommand_congr {text other : String} {target : Option String}
    (same : Text.lower (Command.operation ⟨text, target⟩) =
      Text.lower (Command.operation ⟨other, target⟩)) (store : Store) (rules : RuleSet) :
    checkCommand store ⟨text, target⟩ rules = checkCommand store ⟨other, target⟩ rules := by
  rw [checkCommand, checkCommand, RuleSet.command?_eq_find?, RuleSet.command?_eq_find?, same]

/-- A command raises something exactly if the table has an entry for its operation. -/
theorem checkCommand_ne_nil_iff {store : Store} {c : Command} {rules : RuleSet} :
    checkCommand store c rules ≠ [] ↔ ∃ entry ∈ rules.commands,
      entry.store = store ∧ Text.lower entry.command = Text.lower c.operation := by
  rw [Ne, checkCommand_eq_nil_iff, RuleSet.command?_eq_find?, List.find?_eq_none]
  simp [CommandRule.key]

/-- A command raises the same in every spelling of its first word, whatever blanks stand before it
and whatever arguments behind it. It raises something exactly if the table has an entry of its
store for the operation that the word names, and a word names one operation. -/
theorem spelling_irrelevant {word : List Char} (isWord : IsWord word) (store : Store)
    (rules : RuleSet) (target : Option String) :
    (∀ text, CommandFor word text →
      checkCommand store ⟨String.ofList text, target⟩ rules =
        checkCommand store ⟨String.ofList word, target⟩ rules) ∧
    ∃ name, (∀ other, IsOperationOf other word ↔ other = name) ∧
      (checkCommand store ⟨String.ofList word, target⟩ rules ≠ [] ↔
        ∃ entry ∈ rules.commands,
          entry.store = store ∧ Text.lower entry.command = Text.lower (String.ofList name)) := by
  refine ⟨?_, operationChars word, fun other => isOperationOf_iff, ?_⟩
  · rintro text ⟨blanks, respelled, ended⟩
    have operation := Command.operation_ofList blanks (respelled.isWord isWord) ended target
    apply checkCommand_congr
    rw [operation, Command.operation_word isWord, Text.lower, Text.lower, String.toList_ofList,
      String.toList_ofList, respelled.operation]
  · rw [checkCommand_ne_nil_iff, Command.operation_word isWord]

/-- The wiping of a cache is found in other letters, after two qualifiers, called twice, behind a
blank and before an argument. -/
theorem flushall_respelled :
    checkCommand .redis ⟨"\tcache:db.FlushAll()() ASYNC", none⟩ .builtin =
        checkCommand .redis ⟨"FLUSHALL", none⟩ .builtin ∧
      checkCommand .redis ⟨"FLUSHALL", none⟩ .builtin ≠ [] := by
  have isWord : IsWord "FLUSHALL".toList := by decide
  obtain ⟨alike, name, names, raised⟩ := spelling_irrelevant isWord .redis .builtin none
  have small : Respelled "FLUSHALL".toList "FlushAll".toList := .recased .same (by decide)
  have qualified : Respelled "FLUSHALL".toList
      ("cache".toList ++ ':' :: ("db".toList ++ '.' :: "FlushAll".toList)) :=
    .qualified (.qualified small (Text.any_isBlank_eq_false_iff.1 (by decide)) (.inl rfl))
      (Text.any_isBlank_eq_false_iff.1 (by decide)) (.inr rfl)
  have blank : ∀ c ∈ ['\t'], isBlank c = true := List.all_eq_true.1 (by decide)
  have ended : EndsWord (' ' :: "ASYNC".toList) := Text.endsWord_blank (by decide) _
  refine ⟨alike _ (.intro blank qualified.called.called ended), raised.2 ?_⟩
  have bare : IsBareName "FLUSHALL".toList := by decide
  have named : IsOperationOf "FLUSHALL".toList "FLUSHALL".toList :=
    isOperationOf_iff.2 (operationChars_of_isBareName bare).symm
  rw [← (names _).1 named]
  exact ⟨RuleSet.builtinCommands.head (by decide), List.head_mem _, rfl, rfl⟩

end TraceAudit
