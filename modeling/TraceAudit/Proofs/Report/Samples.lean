import Mathlib.Data.List.Chain
import TraceAudit.Proofs.Text.Ascii
import TraceAudit.Proofs.Text.Words
import TraceAudit.Report.Finding

/-!
# Samples of evidence

A sample is evidence in a normal form: its words with one space between each two, cut to the limit.
There are no needless blanks in it, wherever the cut falls, it is no longer than the limit, and a
sample of a sample is that sample. It depends on the words of the evidence alone.
-/

namespace TraceAudit

namespace Text

/-- A text with no blanks but single spaces between its words. -/
structure IsSpaced (cs : List Char) : Prop where
  plain : ∀ c ∈ cs, isBlank c = true → c = ' '
  first : cs.head? ≠ some ' '
  last : cs.getLast? ≠ some ' '
  apart : cs.IsChain fun c d => ¬(c = ' ' ∧ d = ' ')

theorem isSpaced_nil : IsSpaced [] where
  plain _ impossible := absurd impossible List.not_mem_nil
  first impossible := nomatch impossible
  last impossible := nomatch impossible
  apart := .nil

theorem ne_space {c : Char} (letter : isBlank c = false) : c ≠ ' ' := by
  rintro rfl
  exact absurd letter (by decide)

theorem IsWord.isSpaced {word : List Char} (isWord : IsWord word) : IsSpaced word where
  plain c found blank := by
    rw [isWord.unbroken c found] at blank
    cases blank
  first starts := ne_space (isWord.unbroken ' ' (List.mem_of_head? starts)) rfl
  last ends := ne_space (isWord.unbroken ' ' (List.mem_of_getLast? ends)) rfl
  apart := by
    refine List.Pairwise.isChain (List.pairwise_of_forall_mem_list fun c found d _ both => ?_)
    exact ne_space (isWord.unbroken c found) both.1

/-- A word may be put before a text with a space after it. -/
theorem IsSpaced.cons {word cs : List Char} (isWord : IsWord word) (spaced : IsSpaced cs)
    (nonempty : cs ≠ []) : IsSpaced (word ++ ' ' :: cs) where
  plain c found blank := by
    rcases List.mem_append.1 found with here | later
    · exact isWord.isSpaced.plain c here blank
    · rcases List.mem_cons.1 later with rfl | there
      · rfl
      · exact spaced.plain c there blank
  first starts := by
    rw [List.head?_append_of_ne_nil _ isWord.nonempty] at starts
    exact isWord.isSpaced.first starts
  last ends := by
    obtain ⟨c, rest, rfl⟩ := List.exists_cons_of_ne_nil nonempty
    rw [List.getLast?_append_cons, List.getLast?_cons_cons] at ends
    exact spaced.last ends
  apart := by
    refine List.isChain_append.2 ⟨isWord.isSpaced.apart, List.isChain_cons.2 ⟨?_, spaced.apart⟩, ?_⟩
    · rintro d starts ⟨_, rfl⟩
      exact spaced.first starts
    · rintro c ends d _ ⟨rfl, _⟩
      exact isWord.isSpaced.last ends

theorem joined_ne_nil {words : List (List Char)} (each : ∀ word ∈ words, IsWord word)
    (nonempty : words ≠ []) : joined ' ' words ≠ [] := by
  cases words with
  | nil => exact absurd rfl nonempty
  | cons word rest =>
      have isWord := each word List.mem_cons_self
      cases rest with
      | nil => rw [joined_singleton]; exact isWord.nonempty
      | cons second others =>
          rw [joined_cons_cons]
          exact List.append_ne_nil_of_left_ne_nil isWord.nonempty _

/-- Words joined by spaces have no needless blanks. -/
theorem isSpaced_joined {words : List (List Char)} (each : ∀ word ∈ words, IsWord word) :
    IsSpaced (joined ' ' words) := by
  induction words with
  | nil => exact isSpaced_nil
  | cons word rest ih =>
      have isWord := each word List.mem_cons_self
      have others := fun other listed => each other (List.mem_cons_of_mem word listed)
      cases rest with
      | nil => rw [joined_singleton]; exact isWord.isSpaced
      | cons second more =>
          rw [joined_cons_cons]
          exact (ih others).cons isWord (joined_ne_nil others (List.cons_ne_nil second more))

/-- What stands after a space has no needless blanks either, and there is something. -/
theorem IsSpaced.of_append {front rest : List Char} (spaced : IsSpaced (front ++ ' ' :: rest)) :
    IsSpaced rest ∧ rest ≠ [] := by
  have later (c : Char) (found : c ∈ rest) : c ∈ front ++ ' ' :: rest :=
    List.mem_append_right front (List.mem_cons_of_mem ' ' found)
  have last := spaced.last
  rw [List.getLast?_append_cons] at last
  have nonempty : rest ≠ [] := by
    rintro rfl
    exact last rfl
  obtain ⟨starts, apart⟩ := List.isChain_cons.1 (List.isChain_append.1 spaced.apart).2.1
  refine ⟨⟨fun c found => spaced.plain c (later c found), ?_, ?_, apart⟩, nonempty⟩
  · intro first
    exact starts ' ' first ⟨rfl, rfl⟩
  · obtain ⟨c, others, rfl⟩ := List.exists_cons_of_ne_nil nonempty
    rwa [List.getLast?_cons_cons] at last

/-- What is cut into words and joined by spaces is the text itself if it has no needless blanks. -/
theorem IsSpaced.joined_wordsFrom (begun : List Char) {cs : List Char}
    (spaced : IsSpaced (begun.reverse ++ cs)) :
    joined ' ' (wordsFrom begun cs) = begun.reverse ++ cs := by
  fun_induction wordsFrom begun cs with
  | case1 begun none_begun =>
      rw [List.isEmpty_iff.1 none_begun]
      rfl
  | case2 begun some_begun => rw [joined_singleton, List.append_nil]
  | case3 begun c rest blank none_begun ih =>
      -- The text would begin with a space.
      rw [List.isEmpty_iff.1 none_begun] at spaced
      have space : c = ' ' := spaced.plain c List.mem_cons_self blank
      exact absurd (congrArg some space) spaced.first
  | case4 begun c rest blank some_begun ih =>
      obtain rfl : c = ' ' := spaced.plain c (List.mem_append_right _ List.mem_cons_self) blank
      obtain ⟨later, nonempty⟩ := spaced.of_append
      have whole := ih later
      rw [List.reverse_nil, List.nil_append] at whole
      obtain ⟨second, others, words⟩ : ∃ second others, wordsFrom [] rest = second :: others := by
        refine List.exists_cons_of_ne_nil fun none_left => nonempty ?_
        rw [← whole, none_left]
        rfl
      rw [words, joined_cons_cons, ← words, whole]
  | case5 begun c rest letter ih =>
      rw [List.reverse_cons, List.append_assoc, List.singleton_append] at ih
      exact ih spaced

end Text

namespace Finding

open Text (CutsInto IsSpaced joined)

/-! ## Cutting at the limit -/

/-- No blanks are made needless by a cut, since what is put in the place of the rest has none. -/
theorem isSpaced_take {cs : List Char} (spaced : IsSpaced cs) (n : Nat) :
    IsSpaced (cs.take n ++ ellipsis) where
  plain c found blank := by
    rcases List.mem_append.1 found with kept | dots
    · exact spaced.plain c (List.mem_of_mem_take kept) blank
    · have shown : ellipsis.any Text.isBlank = false := by decide
      rw [Text.any_isBlank_eq_false_iff.1 shown c dots] at blank
      cases blank
  first starts := by
    rw [List.head?_append, List.head?_take] at starts
    split at starts
    · cases starts
    · cases first : cs.head? with
      | none =>
          rw [first] at starts
          cases starts
      | some c =>
          rw [first] at starts
          exact spaced.first (first.trans starts)
  last ends := by
    rw [List.getLast?_append_of_ne_nil _ (by decide)] at ends
    cases ends
  apart := by
    refine List.isChain_append.2 ⟨spaced.apart.take n, by decide, ?_⟩
    rintro c _ d first ⟨_, rfl⟩
    cases first

variable {evidence : List Char} {words : List (List Char)}

/-- Evidence that is short is kept whole. -/
theorem sampleChars_of_short (cut : CutsInto evidence words)
    (short : (joined ' ' words).length ≤ sampleLimit) :
    sampleChars evidence = joined ' ' words := by
  rw [← Text.cutsInto_iff.1 cut] at short ⊢
  exact if_pos short

/-- Evidence that is long is cut, and the cut is shown. -/
theorem sampleChars_of_long (cut : CutsInto evidence words)
    (long : sampleLimit < (joined ' ' words).length) :
    sampleChars evidence =
      (joined ' ' words).take (sampleLimit - ellipsis.length) ++ ellipsis := by
  rw [← Text.cutsInto_iff.1 cut] at long ⊢
  exact if_neg (Nat.not_le_of_lt long)

/-- A sample is as long as the whole evidence, up to the limit. -/
theorem length_sampleChars (cut : CutsInto evidence words) :
    (sampleChars evidence).length = min (joined ' ' words).length sampleLimit := by
  rcases Nat.lt_or_ge sampleLimit (joined ' ' words).length with long | short
  · rw [sampleChars_of_long cut long, List.length_append, List.length_take]
    have room : ellipsis.length ≤ sampleLimit := by decide
    omega
  · rw [sampleChars_of_short cut short, Nat.min_eq_left short]

theorem length_sampleOf_le (evidence : String) : (sampleOf evidence).length ≤ sampleLimit := by
  rw [sampleOf, String.length_ofList, length_sampleChars (Text.cutsInto_iff.2 rfl)]
  exact Nat.min_le_right _ _

/-- There are no needless blanks in a sample. -/
theorem isSpaced_sampleChars (evidence : List Char) : IsSpaced (sampleChars evidence) := by
  have whole : IsSpaced (joined ' ' (Text.wordChars evidence)) :=
    Text.isSpaced_joined fun _ listed => Text.isWord_of_mem_wordChars listed
  unfold sampleChars
  dsimp only
  split
  · exact whole
  · exact isSpaced_take whole _

/-- A short text without needless blanks is its own sample. -/
theorem sampleChars_of_isSpaced (spaced : IsSpaced evidence)
    (short : evidence.length ≤ sampleLimit) : sampleChars evidence = evidence := by
  have whole : joined ' ' (Text.wordChars evidence) = evidence :=
    IsSpaced.joined_wordsFrom [] spaced
  rw [sampleChars_of_short (Text.cutsInto_iff.2 rfl) (by rwa [whole]), whole]

/-! ## Samples as normal forms -/

/-- The sample of any evidence has at most two hundred characters and no needless blanks, and it is
its own sample. Evidence with the same words has the same sample: the words with one space between
each two if they are no longer than that, and else the first hundred and ninety-seven characters of
them and three dots. -/
theorem sampleOf_normalizes (evidence : String) :
    (sampleOf evidence).length ≤ 200 ∧ IsSpaced (sampleOf evidence).toList ∧
    sampleOf (sampleOf evidence) = sampleOf evidence ∧
    ∃ words, (∀ others, CutsInto evidence.toList others ↔ others = words) ∧
      (∀ other : String, CutsInto other.toList words → sampleOf other = sampleOf evidence) ∧
      ((joined ' ' words).length ≤ 200 → (sampleOf evidence).toList = joined ' ' words) ∧
      (200 < (joined ' ' words).length → (sampleOf evidence).length = 200 ∧
        (sampleOf evidence).toList = (joined ' ' words).take 197 ++ ['.', '.', '.']) := by
  have cut : CutsInto evidence.toList (Text.wordChars evidence.toList) := Text.cutsInto_iff.2 rfl
  have chars : (sampleOf evidence).toList = sampleChars evidence.toList := String.toList_ofList
  have length : (sampleOf evidence).length =
      min (joined ' ' (Text.wordChars evidence.toList)).length 200 := by
    rw [← String.length_toList, chars]
    exact length_sampleChars cut
  have spaced := isSpaced_sampleChars evidence.toList
  have bound : (sampleOf evidence).length ≤ 200 := by omega
  refine ⟨bound, ?_, ?_, Text.wordChars evidence.toList, ?_, ?_, ?_, ?_⟩
  · rwa [chars]
  · rw [← String.length_toList, chars] at bound
    rw [sampleOf, chars, sampleChars_of_isSpaced spaced bound]
    rfl
  · intro others
    rw [Text.cutsInto_iff, eq_comm]
  · intro other same
    rw [sampleOf, sampleOf, sampleChars, sampleChars, Text.cutsInto_iff.1 same]
  · intro short
    rw [chars]
    exact sampleChars_of_short cut short
  · intro long
    refine ⟨by omega, ?_⟩
    rw [chars]
    exact sampleChars_of_long cut long

/-- Evidence of two words that is cut right after the space between them. -/
def spaceAtCut : List Char :=
  List.replicate 196 'a' ++ ' ' :: List.replicate 10 'b'

/-- The space stays, and the dots keep it from being the last character. -/
theorem spaceAtCut_normalizes :
    (sampleOf (String.ofList spaceAtCut)).toList =
        List.replicate 196 'a' ++ [' ', '.', '.', '.'] ∧
      sampleOf (sampleOf (String.ofList spaceAtCut)) = sampleOf (String.ofList spaceAtCut) := by
  have repeated {c : Char} (letter : Text.isBlank c = false) {n : Nat} (some_left : n ≠ 0) :
      Text.IsWord (List.replicate n c) :=
    ⟨fun none_left => some_left ((List.replicate_eq_nil_iff c).1 none_left),
      fun d found => List.eq_of_mem_replicate found ▸ letter⟩
  have second : CutsInto (List.replicate 10 'b' ++ []) [List.replicate 10 'b'] :=
    .word (repeated (by decide) (by decide)) Text.endsWord_nil .nothing
  have both : CutsInto spaceAtCut [List.replicate 196 'a', List.replicate 10 'b'] :=
    .word (repeated (by decide) (by decide)) (Text.endsWord_blank (by decide) _)
      (.blank (by decide) second)
  obtain ⟨_, _, again, words, unique, _, _, cut_if_long⟩ :=
    sampleOf_normalizes (String.ofList spaceAtCut)
  rw [String.toList_ofList] at unique
  rw [← (unique _).1 both, Text.joined_cons_cons, Text.joined_singleton] at cut_if_long
  have long : 200 < (List.replicate 196 'a' ++ ' ' :: List.replicate 10 'b').length := by
    rw [List.length_append, List.length_cons, List.length_replicate, List.length_replicate]
    decide
  obtain ⟨_, sample⟩ := cut_if_long long
  rw [List.take_append, List.take_replicate, List.length_replicate, List.append_assoc] at sample
  exact ⟨sample, again⟩

end Finding
end TraceAudit
