import TraceAudit.Proofs.Trace.Lines
import TraceAudit.Trace.Reader

/-!
# Items of a trace

What the lines of an input give, one after the other, and the proof that a reader gives the same,
whatever the way in which a source delivers the input. The reader keeps no state but the number of
the line, the count of lines that were not blank, and the bytes read.
-/

namespace TraceAudit

open Delivery (lineFeed)

namespace Trace

/-- What some lines give, of which the first has a number one above `line`. -/
def itemsFrom (line : Nat) : List Bytes → List Item
  | [] => []
  | bytes :: rest =>
      ((LineContent.ofBytes bytes).item? (line + 1)).toList ++ itemsFrom (line + 1) rest

/-- What the lines of an input give, in order. -/
def items (input : Bytes) : List Item :=
  itemsFrom 0 (lines input)

/-- The records among the items of an input, in order. -/
def records (input : Bytes) : List Record :=
  (items input).filterMap Except.toOption

/-- How many lines of an input are not blank. -/
def nonBlankLines (input : Bytes) : Nat :=
  (lines input).countP fun bytes => LineContent.ofBytes bytes ≠ .blank

theorem reverse_toList (item : Option Item) : item.toList.reverse = item.toList := by
  cases item <;> rfl

theorem isSome_item? (content : LineContent) (line : Nat) :
    (content.item? line).isSome = decide (content ≠ .blank) := by
  cases content <;> simp [LineContent.item?]

theorem length_itemsFrom (line : Nat) (rest : List Bytes) :
    (itemsFrom line rest).length =
      rest.countP fun bytes => LineContent.ofBytes bytes ≠ .blank := by
  induction rest generalizing line with
  | nil => rfl
  | cons bytes rest ih =>
      have first : ((LineContent.ofBytes bytes).item? (line + 1)).toList.length =
          if decide (LineContent.ofBytes bytes ≠ .blank) then 1 else 0 := by
        rw [← isSome_item? _ (line + 1)]
        cases (LineContent.ofBytes bytes).item? (line + 1) <;> rfl
      rw [itemsFrom, List.length_append, ih, List.countP_cons, first, Nat.add_comm]

/-- Each line that is not blank gives one item. -/
theorem length_items (input : Bytes) : (items input).length = nonBlankLines input :=
  length_itemsFrom 0 (lines input)

end Trace

namespace Reader

theorem drain_of_none {r after : Reader} (ended : r.next = (none, after)) (found : List Item) :
    r.drain found = (found, after) := by
  rw [drain]
  split <;> simp_all

theorem drain_of_some {r after : Reader} {i : Item} (given : r.next = (some i, after))
    (found : List Item) : r.drain found = after.drain (i :: found) := by
  rw [drain]
  split <;> simp_all

/-- An empty line is the end of what the source delivers. -/
theorem next_end {r : Reader} {rest : List Delivery} (sound : r.failure = none)
    (read : Delivery.readLine [] r.source = (.line [], rest)) :
    r.next = (none, { r with source := rest }) := by
  rw [next, sound]
  split
  · contradiction
  · split <;> simp_all

/-- A failure is kept, and nothing is yielded. -/
theorem next_failed {r : Reader} {reason : String} {rest : List Delivery}
    (sound : r.failure = none)
    (read : Delivery.readLine [] r.source = (.failed reason, rest)) :
    r.next = (none, { r with source := rest, failure := some reason }) := by
  rw [next, sound]
  split
  · contradiction
  · split <;> simp_all

/-- A reader that has failed yields nothing more. -/
theorem next_of_failure {r : Reader} {reason : String} (failed : r.failure = some reason) :
    r.next = (none, r) := by
  rw [next, failed]
  rfl

/-- A line that is read is taken. If it gives nothing, the reader goes on to the next one. -/
theorem next_line {r : Reader} {bytes : Bytes} {rest : List Delivery}
    (sound : r.failure = none) (nonempty : bytes ≠ [])
    (read : Delivery.readLine [] r.source = (.line bytes, rest)) :
    r.next =
      match (LineContent.ofBytes bytes).item? (r.lines + 1) with
      | some i => (some i, r.takeLine bytes rest (some i))
      | none => (r.takeLine bytes rest none).next := by
  obtain ⟨b, bs, rfl⟩ := List.exists_cons_of_ne_nil nonempty
  rw [next, sound]
  split
  · contradiction
  · split
    · simp_all
    · simp_all
    · rename_i same
      rw [read] at same
      obtain ⟨⟨rfl, rfl⟩, rfl⟩ : (_ ∧ _) ∧ _ := by simpa using same
      cases (LineContent.ofBytes (b :: bs)).item? (r.lines + 1) <;> rfl

/-- Draining takes a line that is read, and finds what it gives. -/
theorem drain_line {r : Reader} {bytes : Bytes} {rest : List Delivery}
    (sound : r.failure = none) (nonempty : bytes ≠ [])
    (read : Delivery.readLine [] r.source = (.line bytes, rest)) (found : List Item) :
    r.drain found =
      (r.takeLine bytes rest ((LineContent.ofBytes bytes).item? (r.lines + 1))).drain
        (((LineContent.ofBytes bytes).item? (r.lines + 1)).toList ++ found) := by
  have step := next_line sound nonempty read
  cases given : (LineContent.ofBytes bytes).item? (r.lines + 1) with
  | some i =>
      rw [given] at step
      exact drain_of_some step found
  | none =>
      rw [given] at step
      rw [drain, step, Option.toList_none, List.nil_append, drain]

/-- The reader after some lines, with the rest of its source. -/
def afterLines (r : Reader) (cut : List Bytes) (rest : List Delivery) : Reader where
  source := rest
  lines := r.lines + cut.length
  nonBlank := r.nonBlank + (Trace.itemsFrom r.lines cut).length
  taken := cut.reverse ++ r.taken
  failure := none

/-- Taking one line and then others is taking them all. -/
theorem afterLines_takeLine (r : Reader) (bytes : Bytes) (source : List Delivery)
    (cut : List Bytes) (rest : List Delivery) :
    (r.takeLine bytes source ((LineContent.ofBytes bytes).item? (r.lines + 1))).afterLines cut rest =
      r.afterLines (bytes :: cut) rest := by
  cases given : (LineContent.ofBytes bytes).item? (r.lines + 1) <;>
    simp [afterLines, takeLine, Trace.itemsFrom, given, Nat.add_assoc, Nat.add_comm 1]

/-- Draining a source to its end finds the items of the lines that it gives. -/
theorem drain_of_ends {source rest : List Delivery} {cut : List Bytes}
    (ends : Delivery.Ends source cut rest) {r : Reader} (sound : r.failure = none)
    (here : r.source = source) (found : List Item) :
    r.drain found =
      ((Trace.itemsFrom r.lines cut).reverse ++ found, r.afterLines cut rest) := by
  induction ends generalizing r found with
  | here read =>
      rw [← here] at read
      rw [drain_of_none (next_end sound read) found]
      simp [afterLines, Trace.itemsFrom, ← sound]
  | line read nonempty _ ih =>
      rw [← here] at read
      rw [drain_line sound nonempty read, ih (r := r.takeLine _ _ _) sound rfl,
        afterLines_takeLine]
      simp [Trace.itemsFrom, Trace.reverse_toList, takeLine]

/-- Draining a source that fails comes to the failure. -/
theorem failure_drain_of_fails {source : List Delivery} {reason : String}
    (fails : Delivery.Fails source reason) {r : Reader} (sound : r.failure = none)
    (here : r.source = source) (found : List Item) :
    (r.drain found).2.failure = some reason := by
  induction fails generalizing r found with
  | here read =>
      rw [← here] at read
      rw [drain_of_none (next_failed sound read) found]
  | line read nonempty _ ih =>
      rw [← here] at read
      rw [drain_line sound nonempty read]
      exact ih (r := r.takeLine _ _ _) sound rfl _

/-- Draining a source finds the items of the lines that it delivers, whatever the chunks. -/
theorem drain_delivered (r : Reader) (input : Bytes) (sound : r.failure = none)
    (delivered : Delivers r.source input) (found : List Item) :
    r.drain found =
      ((Trace.itemsFrom r.lines (Trace.lines input)).reverse ++ found,
        r.afterLines (Trace.lines input) []) :=
  drain_of_ends delivered.ends sound rfl found

/-- Draining a source that delivers nothing more finds nothing. -/
theorem drain_end {r : Reader} (sound : r.failure = none) (delivered : Delivers r.source [])
    (found : List Item) : r.drain found = (found, r.afterLines [] []) :=
  drain_delivered r [] sound delivered found

/-- The items of a reader at the start of a source are those of the lines up to its end. -/
theorem items_of_ends {source rest : List Delivery} {cut : List Bytes}
    (ends : Delivery.Ends source cut rest) :
    (ofSource source).items = (Trace.itemsFrom 0 cut, (ofSource source).afterLines cut rest) := by
  rw [items, drain_of_ends ends rfl rfl]
  simp [ofSource]

/-- The items of a reader at the start of a source are those of the input delivered. -/
theorem items_delivered {source : List Delivery} {input : Bytes}
    (delivered : Delivers source input) :
    (ofSource source).items =
      (Trace.items input, (ofSource source).afterLines (Trace.lines input) []) :=
  items_of_ends delivered.ends

/-- When all of an input has been read, the digest is that of its bytes, and the count is that of
its lines that are not blank. -/
theorem finish_delivered (source : List Delivery) (input : Bytes) :
    ((ofSource source).afterLines (Trace.lines input) []).finish =
      .ok ⟨Sha256.hexDigest input, Trace.nonBlankLines input⟩ := by
  rw [finish, drain_end rfl .done]
  simp [afterLines, ofSource, Trace.itemsFrom, Trace.flatten_lines, Trace.length_itemsFrom,
    Trace.nonBlankLines]

end Reader
end TraceAudit
