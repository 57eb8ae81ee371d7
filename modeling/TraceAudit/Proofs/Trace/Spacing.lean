import Mathlib.Data.List.TakeWhile
import TraceAudit.Proofs.Trace.Ingestion

/-!
# Texts and the spacing around them

The lines of an input say texts: each line that is not blank says the text that is left of it
without byte order marks at its start and blanks at its ends. However texts are written on lines,
with marks and blanks around them, with blank lines between them, and with or without a line feed
at the very end, the lines say these texts.
-/

namespace TraceAudit

open Delivery (lineFeed)

namespace Text

theorem dropWhile_of_head? {p : Char → Bool} {cs : List Char}
    (kept : ∀ c ∈ cs.head?, p c = false) : cs.dropWhile p = cs := by
  cases cs with
  | nil => rfl
  | cons c rest => exact List.dropWhile_cons_of_neg (by simp [kept c rfl])

theorem dropEndWhile_append_of_all {p : Char → Bool} {front back : List Char}
    (dropped : ∀ c ∈ back, p c = true) (kept : ∀ c ∈ front.getLast?, p c = false) :
    dropEndWhile p (front ++ back) = front := by
  rw [dropEndWhile, List.reverse_append,
    List.dropWhile_append_of_pos fun c found => dropped c (List.mem_reverse.1 found),
    dropWhile_of_head? (by rwa [List.head?_reverse]), List.reverse_reverse]

/-- Texts one after the other are written as their bytes one after the other. -/
theorem encodeUtf8_append (s t : String) : encodeUtf8 (s ++ t) = encodeUtf8 s ++ encodeUtf8 t := by
  simp [encodeUtf8]

/-- The bytes of a character other than a line feed are other bytes. -/
theorem lineFeed_not_mem_utf8EncodeChar {c : Char} (other : c ≠ '\n') :
    lineFeed ∉ String.utf8EncodeChar c := by
  have differs {n : Nat} (above : n ≠ 10) (below : n < 256) : lineFeed ≠ UInt8.ofNat n := by
    intro same
    have value := congrArg UInt8.toNat same
    rw [UInt8.toNat_ofNat_of_lt' below] at value
    exact above value.symm
  have code : c.val.toNat ≠ 10 := fun same =>
    other (Char.ext (UInt32.toNat_inj.1 same))
  fun_cases String.utf8EncodeChar c with
  | case1 v small =>
      rw [List.mem_singleton]
      exact differs code (by omega)
  | case2 | case3 | case4 =>
      -- No byte of a longer character is in ASCII.
      simp only [List.mem_cons, List.not_mem_nil, or_false, not_or]
      and_intros <;> exact differs (by omega) (by omega)

/-- The bytes of a text without line feeds hold none. -/
theorem lineFeed_not_mem_encodeUtf8 {cs : List Char} (unended : '\n' ∉ cs) :
    lineFeed ∉ encodeUtf8 (String.ofList cs) := by
  rw [encodeUtf8, String.toByteArray_ofList, List.utf8Encode, List.data_toByteArray]
  intro found
  obtain ⟨c, there, within⟩ := List.mem_flatMap.1 found
  exact lineFeed_not_mem_utf8EncodeChar (fun same => unended (same ▸ there)) within

end Text

namespace Trace

/-! ## What lines say -/

/-- The text that a line says, if it is not blank. All lines that are not UTF-8 say the same. -/
def lineText? (bytes : Bytes) : Option (Option String) :=
  match Text.decodeUtf8? bytes with
  | none => some none
  | some s => if bareText s = "" then none else some (some (bareText s))

/-- The texts that the lines of an input say, in order. -/
def texts (input : Bytes) : List (Option String) :=
  (lines input).filterMap lineText?

theorem texts_unended {line : Bytes} (unended : lineFeed ∉ line) :
    texts line = if line = [] then [] else (lineText? line).toList := by
  by_cases empty : line = []
  · rw [if_pos empty, empty]
    rfl
  · rw [if_neg empty, texts, lines_unended unended empty, List.filterMap_cons]
    cases lineText? line <;> rfl

theorem texts_ended {line : Bytes} (unended : lineFeed ∉ line) (rest : Bytes) :
    texts (line ++ lineFeed :: rest) = (lineText? (line ++ [lineFeed])).toList ++ texts rest := by
  rw [texts, lines_ended unended, List.filterMap_cons]
  cases lineText? (line ++ [lineFeed]) <;> rfl

/-! ## Texts on lines -/

/-- A text that begins with no byte order mark and neither begins nor ends with a blank. -/
structure IsBare (text : List Char) : Prop where
  first : ∀ c ∈ text.head?, Text.isBlank c = false ∧ c.toNat ≠ 0xFEFF
  last : ∀ c ∈ text.getLast?, Text.isBlank c = false

instance (text : List Char) : Decidable (IsBare text) :=
  decidable_of_iff ((text.head?.all fun c => !Text.isBlank c && c.toNat != 0xFEFF) = true ∧
      (text.getLast?.all fun c => !Text.isBlank c) = true)
    ⟨fun ⟨first, last⟩ => ⟨by simpa [Option.all_eq_true] using first,
        by simpa [Option.all_eq_true] using last⟩,
      fun bare => ⟨by simpa [Option.all_eq_true] using bare.first,
        by simpa [Option.all_eq_true] using bare.last⟩⟩

/-- Blanks around a bare text are cut off. -/
theorem trimChars_spaced {before text after : List Char}
    (before_blank : ∀ c ∈ before, Text.isBlank c = true)
    (after_blank : ∀ c ∈ after, Text.isBlank c = true) (bare : IsBare text) :
    Text.trimChars (before ++ (text ++ after)) = text := by
  rw [Text.trimChars, Text.dropBlanks, List.dropWhile_append_of_pos before_blank]
  cases text with
  | nil =>
      rw [List.nil_append, List.dropWhile_eq_nil_iff.2 after_blank]
      rfl
  | cons c rest =>
      have shown : ¬Text.isBlank c = true := by simp [(bare.first c rfl).1]
      rw [List.cons_append, List.dropWhile_cons_of_neg shown, ← List.cons_append]
      exact Text.dropEndWhile_append_of_all after_blank bare.last

/-- A byte order mark is not blank. -/
theorem not_mark_of_isBlank {c : Char} (blank : Text.isBlank c = true) :
    (c.toNat == 0xFEFF) = false := by
  rw [beq_eq_false_iff_ne]
  intro mark
  simp [Text.isBlank, mark] at blank

/-- Byte order marks, and blanks around a bare text after them, are cut off. -/
theorem bareText_spaced (marks : Nat) {before text after : List Char}
    (before_blank : ∀ c ∈ before, Text.isBlank c = true)
    (after_blank : ∀ c ∈ after, Text.isBlank c = true) (bare : IsBare text) :
    bareText (String.ofList (List.replicate marks '\ufeff' ++ (before ++ (text ++ after)))) =
      String.ofList text := by
  have all_marks : ∀ c ∈ List.replicate marks '\ufeff', (c.toNat == 0xFEFF) = true := by
    intro c found
    rw [List.eq_of_mem_replicate found]
    rfl
  have unmarked : ∀ c ∈ (before ++ (text ++ after)).head?, (c.toNat == 0xFEFF) = false := by
    cases before with
    | cons b _ =>
        rintro _ ⟨⟩
        exact not_mark_of_isBlank (before_blank b List.mem_cons_self)
    | nil =>
        cases text with
        | cons t _ =>
            rintro _ ⟨⟩
            exact beq_eq_false_iff_ne.2 (bare.first t rfl).2
        | nil =>
            exact fun c first => not_mark_of_isBlank (after_blank c (List.mem_of_mem_head? first))
  rw [bareText, Text.trim, String.toList_ofList, String.toList_ofList,
    List.dropWhile_append_of_pos all_marks, Text.dropWhile_of_head? unmarked,
    trimChars_spaced before_blank after_blank bare]

/-- A text on a line: byte order marks and then blanks before it, and blanks after it. -/
structure Line where
  marks : Nat
  before : List Char
  text : List Char
  after : List Char
  before_blank : before.all Text.isBlank = true
  after_blank : after.all Text.isBlank = true
  bare : IsBare text
  unended : '\n' ∉ before ++ (text ++ after)

namespace Line

/-- The bytes of a line, without a line feed. -/
def bytes (line : Line) : Bytes :=
  Text.encodeUtf8 (String.ofList
    (List.replicate line.marks '\ufeff' ++ (line.before ++ (line.text ++ line.after))))

/-- The text of a line, if it is not empty. -/
def text? (line : Line) : Option String :=
  if line.text = [] then none else some (String.ofList line.text)

/-- The bytes of lines with a line feed after each. After the last one there need not be one. -/
def written (ended : Bool) : List Line → Bytes
  | [] => []
  | [last] => last.bytes ++ if ended then [lineFeed] else []
  | line :: next :: rest => line.bytes ++ lineFeed :: written ended (next :: rest)

theorem lineFeed_not_mem_bytes (line : Line) : lineFeed ∉ line.bytes := by
  refine Text.lineFeed_not_mem_encodeUtf8 fun found => ?_
  rcases List.mem_append.1 found with mark | within
  · exact absurd (List.eq_of_mem_replicate mark) (by decide)
  · exact line.unended within

/-- More blanks at the end of a line do not change what it says. -/
theorem lineText?_bytes_append (line : Line) {more : List Char}
    (blank : more.all Text.isBlank = true) :
    lineText? (line.bytes ++ Text.encodeUtf8 (String.ofList more)) = line.text?.map some := by
  have after_blank : (line.after ++ more).all Text.isBlank = true := by
    rw [List.all_append, line.after_blank, blank, Bool.and_true]
  rw [bytes, ← Text.encodeUtf8_append, ← String.ofList_append, List.append_assoc,
    List.append_assoc, List.append_assoc, lineText?, Text.decodeUtf8?_encodeUtf8]
  dsimp only
  rw [bareText_spaced line.marks (List.all_eq_true.1 line.before_blank)
    (List.all_eq_true.1 after_blank) line.bare, text?]
  by_cases empty : line.text = []
  · rw [if_pos empty, if_pos (String.ofList_eq_empty_iff.2 empty)]
    rfl
  · rw [if_neg empty, if_neg (mt String.ofList_eq_empty_iff.1 empty)]
    rfl

theorem lineText?_bytes (line : Line) : lineText? line.bytes = line.text?.map some := by
  have nothing : [].all Text.isBlank = true := rfl
  have same := line.lineText?_bytes_append nothing
  rwa [String.ofList_nil, show Text.encodeUtf8 "" = [] from rfl, List.append_nil] at same

theorem lineText?_bytes_ended (line : Line) :
    lineText? (line.bytes ++ [lineFeed]) = line.text?.map some :=
  have line_feed : ['\n'].all Text.isBlank = true := rfl
  line.lineText?_bytes_append line_feed

/-- Lines say the texts on them, however these are spaced, and whether the last one is ended. -/
theorem texts_written (ended : Bool) (lines : List Line) :
    texts (written ended lines) = (lines.filterMap text?).map some := by
  have more (line : Line) (rest : Bytes) :
      texts (line.bytes ++ lineFeed :: rest) = (line.text?.map some).toList ++ texts rest := by
    rw [texts_ended line.lineFeed_not_mem_bytes, lineText?_bytes_ended]
  induction lines with
  | nil => rfl
  | cons line rest ih =>
      have said : ((line :: rest).filterMap text?).map some =
          (line.text?.map some).toList ++ (rest.filterMap text?).map some := by
        rw [List.filterMap_cons]
        cases line.text? <;> rfl
      rw [said]
      cases rest with
      | cons next others => rw [written, more, ih]
      | nil =>
          cases ended with
          | true => exact more line []
          | false =>
              have unended : written false [line] = line.bytes := List.append_nil _
              rw [unended, texts_unended line.lineFeed_not_mem_bytes, ← lineText?_bytes]
              by_cases empty : line.bytes = []
              · rw [if_pos empty, empty]
                rfl
              · rw [if_neg empty]
                exact (List.append_nil _).symm

end Line
end Trace
end TraceAudit
