import TraceAudit.Proofs.Trace.Items

/-!
# Reading is a batch

What a reader gives, one item at a time, is what a pure definition gives for the whole input: the
input is cut after each line feed, each line that is not UTF-8 or not blank gives one item under
its number, and the digest is that of all bytes. It does not matter how a source cuts the input
into chunks, where it is interrupted, or how many items were asked for before the reading was
finished.
-/

namespace TraceAudit

open Delivery (lineFeed)

namespace Trace

/-- The cut of an input into lines: each is some bytes without a line feed and a line feed, except
that the last one may lack it, and then it has other bytes. -/
inductive CutInto : Bytes → List Bytes → Prop where
  | nothing : CutInto [] []
  | unended {line : Bytes} (nonempty : line ≠ []) (unended : lineFeed ∉ line) :
      CutInto line [line]
  | ended {line rest : Bytes} {later : List Bytes} (unended : lineFeed ∉ line)
      (cut : CutInto rest later) :
      CutInto (line ++ lineFeed :: rest) ((line ++ [lineFeed]) :: later)

/-- There is one cut into lines, and `lines` computes it. -/
theorem cutInto_iff {input : Bytes} {cut : List Bytes} : CutInto input cut ↔ cut = lines input := by
  constructor
  · intro isCut
    induction isCut with
    | nothing => rfl
    | unended nonempty unended => exact (lines_unended unended nonempty).symm
    | ended unended _ ih => rw [lines_ended unended, ih]
  · rintro rfl
    rcases lines_cases input with rfl | ⟨nonempty, unended⟩ | ⟨line, rest, rfl, unended⟩
    · exact .nothing
    · rw [lines_unended unended nonempty]
      exact .unended nonempty unended
    · rw [lines_ended unended]
      exact .ended unended (cutInto_iff.2 rfl)
termination_by input.length
decreasing_by simp_all; omega

/-- A text without byte order marks at its start, and after that without blanks at either end. -/
def bareText (s : String) : String :=
  Text.trim (String.ofList (s.toList.dropWhile (·.toNat == 0xFEFF)))

/-- What a line gives under its number. -/
def lineItem? (number : Nat) (bytes : Bytes) : Option Item :=
  match Text.decodeUtf8? bytes with
  | none => some (.error ⟨number, .notUtf8⟩)
  | some s => if bareText s = "" then none else some (Record.ofLine number (bareText s))

/-- What some lines give, the first one having the number one. -/
def batch (cut : List Bytes) : List Item :=
  (cut.zipIdx 1).filterMap fun line => lineItem? line.2 line.1

/-- The content of a line decides what it gives. -/
theorem item?_ofBytes (number : Nat) (bytes : Bytes) :
    (LineContent.ofBytes bytes).item? number = lineItem? number bytes := by
  unfold LineContent.ofBytes lineItem?
  cases Text.decodeUtf8? bytes with
  | none => rfl
  | some s =>
      dsimp only
      have bare : String.ofList (Text.trimChars (s.toList.dropWhile (·.toNat == 0xFEFF))) =
          bareText s := by
        rw [bareText, Text.trim, String.toList_ofList]
      have empty_iff : bareText s = "" ↔
          Text.trimChars (s.toList.dropWhile (·.toNat == 0xFEFF)) = [] := by
        rw [← bare, String.ofList_eq_empty_iff]
      by_cases empty : bareText s = ""
      · rw [if_pos empty, empty_iff.1 empty]
        rfl
      · rw [if_neg empty, if_neg (by rw [List.isEmpty_iff]; exact mt empty_iff.2 empty), bare]
        rfl

theorem itemsFrom_eq_filterMap (line : Nat) (cut : List Bytes) :
    itemsFrom line cut =
      (cut.zipIdx (line + 1)).filterMap fun line => lineItem? line.2 line.1 := by
  induction cut generalizing line with
  | nil => rfl
  | cons bytes rest ih =>
      rw [itemsFrom, item?_ofBytes, ih, List.zipIdx_cons, List.filterMap_cons]
      cases lineItem? (line + 1) bytes <;> rfl

theorem itemsFrom_zero (cut : List Bytes) : itemsFrom 0 cut = batch cut :=
  itemsFrom_eq_filterMap 0 cut

theorem items_eq_batch (input : Bytes) : items input = batch (lines input) :=
  itemsFrom_zero (lines input)

end Trace

namespace Reader

/-- What was found before does not change what draining finds after it, nor where it ends. -/
theorem drain_append (r : Reader) (found before : List Item) :
    r.drain (found ++ before) = ((r.drain found).1 ++ before, (r.drain found).2) := by
  fun_induction drain r found with
  | case1 r found after ended => exact drain_of_none ended (found ++ before)
  | case2 r found i after given ih => rw [drain_of_some given]; exact ih

/-- Taking items is the beginning of draining: either all that were asked for came, and draining
goes on from there, or fewer came, and draining ends there too. -/
theorem drain_take (r : Reader) (count : Nat) :
    ((r.take count).1.length = count ∧
      r.drain [] = (r.take count).2.drain (r.take count).1.reverse) ∨
    ((r.take count).1.length < count ∧
      r.drain [] = ((r.take count).1.reverse, (r.take count).2)) := by
  induction count generalizing r with
  | zero => exact .inl ⟨rfl, rfl⟩
  | succ count ih =>
      rw [take]
      cases step : r.next with
      | mk item after =>
          cases item with
          | none => exact .inr ⟨Nat.succ_pos count, drain_of_none step []⟩
          | some i =>
              have onward : r.drain [] = ((after.drain []).1 ++ [i], (after.drain []).2) := by
                rw [drain_of_some step, ← drain_append, List.nil_append]
              rcases ih after with ⟨all, drained⟩ | ⟨fewer, drained⟩
              · refine .inl ⟨congrArg (· + 1) all, ?_⟩
                rw [onward, drained, ← drain_append, List.reverse_cons]
              · refine .inr ⟨Nat.succ_lt_succ fewer, ?_⟩
                rw [onward, drained, List.reverse_cons]

/-- The items taken are the first of all items. -/
theorem take_eq_take_items (r : Reader) (count : Nat) :
    (r.take count).1 = r.items.1.take count := by
  have all : r.items.1 = (r.drain []).1.reverse := rfl
  rcases r.drain_take count with ⟨length, drained⟩ | ⟨fewer, drained⟩
  · have onward := drain_append (r.take count).2 [] (r.take count).1.reverse
    rw [List.nil_append] at onward
    rw [all, drained, onward, List.reverse_append, List.reverse_reverse, List.take_left' length]
  · rw [all, drained, List.reverse_reverse, List.take_of_length_le (Nat.le_of_lt fewer)]

/-- Where draining ends after some items were taken from a source that delivers an input. -/
theorem drain_after_take {source : List Delivery} {input : Bytes}
    (delivered : Delivers source input) (count : Nat) :
    (((ofSource source).take count).2.drain []).2 =
      (ofSource source).afterLines (Trace.lines input) [] := by
  have last : ((ofSource source).drain []).2 =
      (ofSource source).afterLines (Trace.lines input) [] := by
    rw [drain_delivered (ofSource source) input rfl delivered]
  rcases (ofSource source).drain_take count with ⟨_, drained⟩ | ⟨_, drained⟩
  · have onward := drain_append ((ofSource source).take count).2 []
      ((ofSource source).take count).1.reverse
    rw [List.nil_append] at onward
    rw [← last, drained, onward]
  · have ended : ((ofSource source).take count).2 =
        (ofSource source).afterLines (Trace.lines input) [] := by
      rw [← last, drained]
    rw [ended, drain_end rfl .done]
    simp [afterLines, Trace.itemsFrom]

end Reader

/-- From a source that delivers an input, in whatever chunks and with whatever interruptions, the
items taken are the first ones of the batch on the lines of the input. However many were taken,
finishing gives the digest of the whole input and the number of all items. -/
theorem reading_eq_batch {source : List Delivery} {input : Bytes}
    (delivered : Delivers source input) :
    ∃ cut, Trace.CutInto input cut ∧
      (Reader.ofSource source).items.1 = Trace.batch cut ∧
      ∀ count, ((Reader.ofSource source).take count).1 = (Trace.batch cut).take count ∧
        ((Reader.ofSource source).take count).2.finish =
          .ok ⟨Sha256.hexDigest input, (Trace.batch cut).length⟩ := by
  have all : (Reader.ofSource source).items.1 = Trace.batch (Trace.lines input) := by
    rw [Reader.items_delivered delivered, Trace.items_eq_batch]
  refine ⟨Trace.lines input, Trace.cutInto_iff.2 rfl, all, fun count => ⟨?_, ?_⟩⟩
  · rw [Reader.take_eq_take_items, all]
  · have finished := Reader.finish_delivered source input
    rw [Reader.finish, Reader.drain_end rfl .done] at finished
    rw [Reader.finish, Reader.drain_after_take delivered, ← Trace.items_eq_batch,
      Trace.length_items]
    exact finished

/-- A line with a character of two bytes, one that is blank, one that is not UTF-8, and one without
a line feed. -/
def mixedInput : Bytes :=
  Text.encodeUtf8 "\x7b\"role\":\"\u00e9\"\x7d\r\n \n" ++ [0xff, lineFeed] ++
    Text.encodeUtf8 "\x7b\"role\":\"x\"\x7d"

/-- That input, cut within the character and before the line feed that ends its line. -/
def mixedSource : List Delivery := [
  .bytes (mixedInput.take 10), .interrupt, .bytes ((mixedInput.drop 10).take 4), .interrupt,
  .interrupt, .bytes ((mixedInput.drop 10).drop 4)]

/-- One item is taken from that source, and three are counted in the end. -/
theorem mixedSource_read :
    (((Reader.ofSource mixedSource).take 1).1.filterMap Except.toOption).map Record.role =
        [.other "\u00e9"] ∧
      ((Reader.ofSource mixedSource).take 1).2.finish =
        .ok ⟨Sha256.hexDigest mixedInput, 3⟩ := by
  have delivered : Delivers mixedSource mixedInput := by
    have chunks := Delivers.chunk (mixedInput.take 10) (.interrupt (.chunk
      ((mixedInput.drop 10).take 4) (.interrupt (.interrupt
        (delivers_whole ((mixedInput.drop 10).drop 4))))))
    rwa [List.take_append_drop, List.take_append_drop] at chunks
  obtain ⟨cut, isCut, _, taken⟩ := reading_eq_batch delivered
  obtain ⟨first, finished⟩ := taken 1
  rw [Trace.cutInto_iff.1 isCut] at first finished
  have three : (Trace.batch (Trace.lines mixedInput)).length = 3 := by decide +kernel
  rw [three] at finished
  refine ⟨?_, finished⟩
  rw [first]
  decide +kernel

end TraceAudit
