import TraceAudit.Text.Blank

/-!
# Words

The words of a text are its longest pieces without blanks. A text is cut into words in one way, and
that is how its words are found: blanks before the first word, between words and after the last one
are skipped, and a word ends where the text does or at a blank.
-/

namespace TraceAudit.Text

theorem any_isBlank_eq_false_iff {cs : List Char} :
    cs.any isBlank = false ↔ ∀ c ∈ cs, isBlank c = false := by
  simp only [List.any_eq_false, Bool.not_eq_true]

/-- A piece of a text that may be a word: it has a character, and no blanks. -/
structure IsWord (cs : List Char) : Prop where
  nonempty : cs ≠ []
  unbroken : ∀ c ∈ cs, isBlank c = false

instance (cs : List Char) : Decidable (IsWord cs) :=
  decidable_of_iff (cs ≠ [] ∧ cs.any isBlank = false)
    ⟨fun both => ⟨both.1, any_isBlank_eq_false_iff.1 both.2⟩,
      fun isWord => ⟨isWord.nonempty, any_isBlank_eq_false_iff.2 isWord.unbroken⟩⟩

/-- What may follow a word: nothing, or a blank and anything. -/
def EndsWord (rest : List Char) : Prop :=
  ∀ c ∈ rest.head?, isBlank c = true

theorem endsWord_nil : EndsWord [] := fun _ impossible => nomatch impossible

theorem endsWord_blank {c : Char} (blank : isBlank c = true) (rest : List Char) :
    EndsWord (c :: rest) := by
  intro d first
  rwa [← Option.some.inj first]

/-- The ways to cut a text into words and blanks, where no two words touch. -/
inductive CutsInto : List Char → List (List Char) → Prop where
  | nothing : CutsInto [] []
  | blank {c : Char} {rest : List Char} {words : List (List Char)} (blank : isBlank c = true)
      (later : CutsInto rest words) : CutsInto (c :: rest) words
  | word {word rest : List Char} {words : List (List Char)} (isWord : IsWord word)
      (ended : EndsWord rest) (later : CutsInto rest words) :
      CutsInto (word ++ rest) (word :: words)

/-! ## Finding words -/

/-- Letters are gathered until a blank comes. -/
theorem wordsFrom_append {letters : List Char} (unbroken : ∀ c ∈ letters, isBlank c = false)
    (begun rest : List Char) :
    wordsFrom begun (letters ++ rest) = wordsFrom (letters.reverse ++ begun) rest := by
  induction letters generalizing begun with
  | nil => rfl
  | cons c letters ih =>
      have letter := unbroken c List.mem_cons_self
      have others := fun d found => unbroken d (List.mem_cons_of_mem c found)
      rw [List.cons_append, wordsFrom_letter letter, ih others, List.reverse_cons,
        List.append_assoc, List.singleton_append]

/-- A word already begun is found where it ends. -/
theorem wordsFrom_ended {begun rest : List Char} (nonempty : begun ≠ [])
    (ended : EndsWord rest) : wordsFrom begun rest = begun.reverse :: wordsFrom [] rest := by
  have some_begun : begun.isEmpty = false := List.isEmpty_eq_false_iff.2 nonempty
  cases rest with
  | nil => simp [some_begun]
  | cons c rest =>
      have blank : isBlank c = true := ended c rfl
      simp [wordsFrom, blank, some_begun]

theorem wordChars_blank {c : Char} (blank : isBlank c = true) (rest : List Char) :
    wordChars (c :: rest) = wordChars rest :=
  wordsFrom_blank blank rest

theorem wordChars_blanks {before : List Char} (blanks : ∀ c ∈ before, isBlank c = true)
    (rest : List Char) : wordChars (before ++ rest) = wordChars rest := by
  induction before with
  | nil => rfl
  | cons c before ih =>
      rw [List.cons_append, wordChars_blank (blanks c List.mem_cons_self),
        ih fun d found => blanks d (List.mem_cons_of_mem c found)]

theorem wordChars_word {word rest : List Char} (isWord : IsWord word) (ended : EndsWord rest) :
    wordChars (word ++ rest) = word :: wordChars rest := by
  have begun : word.reverse ≠ [] := List.reverse_ne_nil_iff.2 isWord.nonempty
  rw [wordChars, wordsFrom_append isWord.unbroken, List.append_nil, wordsFrom_ended begun ended,
    List.reverse_reverse]
  rfl

/-- A word is cut into itself. -/
theorem wordChars_of_isWord {word : List Char} (isWord : IsWord word) :
    wordChars word = [word] := by
  have found := wordChars_word isWord endsWord_nil
  rwa [List.append_nil] at found

/-- The words that are found are those of a cut, with what was begun put back. -/
theorem cutsInto_wordsFrom {begun : List Char} (unbroken : ∀ c ∈ begun, isBlank c = false)
    (cs : List Char) : CutsInto (begun.reverse ++ cs) (wordsFrom begun cs) := by
  have isWord {letters : List Char} (some_begun : ¬letters.isEmpty = true)
      (unbroken : ∀ c ∈ letters, isBlank c = false) : IsWord letters.reverse :=
    ⟨fun none_left => some_begun (List.isEmpty_iff.2 (List.reverse_eq_nil_iff.1 none_left)),
      fun c found => unbroken c (List.mem_reverse.1 found)⟩
  have fresh : ∀ c ∈ ([] : List Char), isBlank c = false :=
    fun _ impossible => absurd impossible List.not_mem_nil
  fun_induction wordsFrom begun cs with
  | case1 begun none_begun =>
      rw [List.isEmpty_iff.1 none_begun]
      exact .nothing
  | case2 begun some_begun =>
      exact .word (isWord some_begun unbroken) endsWord_nil .nothing
  | case3 begun c rest blank none_begun ih =>
      rw [List.isEmpty_iff.1 none_begun]
      exact .blank blank (ih fresh)
  | case4 begun c rest blank some_begun ih =>
      exact .word (isWord some_begun unbroken) (endsWord_blank blank rest)
        (.blank blank (ih fresh))
  | case5 begun c rest letter ih =>
      have more : ∀ d ∈ c :: begun, isBlank d = false := by
        intro d found
        rcases List.mem_cons.1 found with rfl | before
        · exact Bool.eq_false_iff.2 letter
        · exact unbroken d before
      have whole := ih more
      rwa [List.reverse_cons, List.append_assoc] at whole

/-- A text is cut into its words, and into nothing else. -/
theorem cutsInto_iff {cs : List Char} {words : List (List Char)} :
    CutsInto cs words ↔ wordChars cs = words := by
  constructor
  · intro cut
    induction cut with
    | nothing => rfl
    | blank blank later ih => rw [wordChars_blank blank, ih]
    | word isWord ended later ih => rw [wordChars_word isWord ended, ih]
  · rintro rfl
    exact cutsInto_wordsFrom (fun _ impossible => absurd impossible List.not_mem_nil) cs

theorem CutsInto.isWord {cs word : List Char} {words : List (List Char)}
    (cut : CutsInto cs words) (listed : word ∈ words) : IsWord word := by
  induction cut with
  | nothing => cases listed
  | blank blank later ih => exact ih listed
  | word isWord ended later ih =>
      rcases List.mem_cons.1 listed with rfl | there
      · exact isWord
      · exact ih there

theorem isWord_of_mem_wordChars {cs word : List Char} (listed : word ∈ wordChars cs) :
    IsWord word :=
  (cutsInto_iff.2 rfl).isWord listed

end TraceAudit.Text
