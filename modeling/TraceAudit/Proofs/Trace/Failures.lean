import TraceAudit.Proofs.Trace.Ingestion

/-!
# Sources that fail

A reader of a source that fails yields what the lines that were ended before the failure give, and
after that nothing, however often it is asked. The line that the failure cuts off is lost. Nothing
that was yielded before hides the failure: finishing the reader tells it, whenever that is done.
-/

namespace TraceAudit

open Delivery (lineFeed)

namespace Trace

/-- The lines of an input that are ended: each is some bytes without a line feed and a line feed.
What follows the last of them is left out. -/
inductive EndedLines : Bytes → List Bytes → Prop where
  | rest {part : Bytes} (unended : lineFeed ∉ part) : EndedLines part []
  | line {line rest : Bytes} {later : List Bytes} (unended : lineFeed ∉ line)
      (cut : EndedLines rest later) :
      EndedLines (line ++ lineFeed :: rest) ((line ++ [lineFeed]) :: later)

/-- Whether a line is ended. -/
def isEnded (line : Bytes) : Bool :=
  line.getLast? == some lineFeed

theorem isEnded_append (line : Bytes) : isEnded (line ++ [lineFeed]) = true := by
  rw [isEnded, List.getLast?_concat]
  exact beq_self_eq_true _

theorem isEnded_of_not_mem {part : Bytes} (unended : lineFeed ∉ part) : isEnded part = false := by
  rw [isEnded, beq_eq_false_iff_ne]
  intro last
  exact unended (List.mem_of_getLast? last)

/-- The ended lines of an input are those of its lines that are ended. -/
theorem endedLines_iff {input : Bytes} {cut : List Bytes} :
    EndedLines input cut ↔ cut = (lines input).filter isEnded := by
  constructor
  · intro isCut
    induction isCut with
    | @rest part unended =>
        by_cases empty : part = []
        · rw [empty]
          rfl
        · rw [lines_unended unended empty, List.filter_cons_of_neg]
          · rfl
          · rw [isEnded_of_not_mem unended]
            exact Bool.false_ne_true
    | line unended cut ih =>
        rw [lines_ended unended, List.filter_cons_of_pos (isEnded_append _), ih]
  · rintro rfl
    rcases lines_cases input with rfl | ⟨nonempty, unended⟩ | ⟨line, rest, rfl, unended⟩
    · exact .rest List.not_mem_nil
    · rw [lines_unended unended nonempty, List.filter_cons_of_neg]
      · exact .rest unended
      · rw [isEnded_of_not_mem unended]
        exact Bool.false_ne_true
    · rw [lines_ended unended, List.filter_cons_of_pos (isEnded_append _)]
      exact .line unended (endedLines_iff.2 rfl)
termination_by input.length
decreasing_by simp_all; omega

end Trace

namespace Reader

/-- What a reader that is asked again and again answers, each time an item or nothing, and the
reader after that. -/
def answers (r : Reader) : Nat → List (Option Item) × Reader
  | 0 => ([], r)
  | count + 1 =>
      let (answer, after) := r.next
      let (later, last) := after.answers count
      (answer :: later, last)

/-- A reader that is going to yield these items and to fail for this reason then, or that has no
more to yield and has failed. -/
inductive FailsAfter (reason : String) : List Item → Reader → Prop where
  | failed {r : Reader} (kept : r.failure = some reason) : FailsAfter reason [] r
  | ahead {r : Reader} {source tail : List Delivery} {input : Bytes} {cut : List Bytes}
      (sound : r.failure = none) (source_eq : r.source = source ++ .failure reason :: tail)
      (delivered : Delivers source input) (isCut : Trace.EndedLines input cut) :
      FailsAfter reason (Trace.itemsFrom r.lines cut) r

/-- A reader that still has lines ahead of the failure yields the first item that they give, passing
over the blank ones. If none gives an item, it fails. -/
theorem next_ahead {reason : String} {tail : List Delivery} {input : Bytes} {cut : List Bytes}
    (isCut : Trace.EndedLines input cut) {r : Reader} {source : List Delivery}
    (sound : r.failure = none) (source_eq : r.source = source ++ .failure reason :: tail)
    (delivered : Delivers source input) :
    r.next.1 = (Trace.itemsFrom r.lines cut).head? ∧
      FailsAfter reason (Trace.itemsFrom r.lines cut).tail r.next.2 ∧
      (Trace.itemsFrom r.lines cut = [] → r.next.2.failure = some reason) := by
  induction isCut generalizing r source with
  | rest unended =>
      have read := Delivery.readLine_unended delivered unended [] (.failure reason :: tail)
      rw [← source_eq] at read
      rw [next_failed sound read]
      exact ⟨rfl, .failed rfl, fun _ => rfl⟩
  | @line line rest later unended isCut ih =>
      obtain ⟨after, onward, read⟩ :=
        Delivery.readLine_ended delivered rfl unended [] (.failure reason :: tail)
      rw [← source_eq, List.nil_append] at read
      have taken : line ++ [lineFeed] ≠ [] := by
        apply List.append_ne_nil_of_right_ne_nil
        exact List.cons_ne_nil _ _
      have step := next_line sound taken read
      rw [Trace.itemsFrom]
      cases given : (LineContent.ofBytes (line ++ [lineFeed])).item? (r.lines + 1) with
      | some item =>
          rw [given] at step
          rw [step]
          have ahead : FailsAfter reason (Trace.itemsFrom (r.lines + 1) later)
              (r.takeLine (line ++ [lineFeed]) (after ++ .failure reason :: tail) (some item)) :=
            .ahead (r := r.takeLine _ _ _) sound rfl onward isCut
          exact ⟨rfl, ahead, fun impossible => absurd impossible (List.cons_ne_nil _ _)⟩
      | none =>
          rw [given] at step
          rw [step]
          exact ih (r := r.takeLine _ _ none) sound rfl onward

namespace FailsAfter

variable {reason : String} {items : List Item} {r : Reader}

/-- One step: such a reader yields the first of the items, then the others are ahead of the failure.
If there is none, it has failed. -/
theorem next (fails : FailsAfter reason items r) :
    r.next.1 = items.head? ∧ FailsAfter reason items.tail r.next.2 ∧
      (items = [] → r.next.2.failure = some reason) := by
  cases fails with
  | failed kept =>
      rw [next_of_failure kept]
      exact ⟨rfl, .failed kept, fun _ => kept⟩
  | ahead sound source_eq delivered isCut => exact next_ahead isCut sound source_eq delivered

/-- A run of steps: the items come one after the other, and then nothing. -/
theorem answers (fails : FailsAfter reason items r) (count : Nat) :
    (r.answers count).1 = (List.range count).map (fun i => items[i]?) ∧
      FailsAfter reason (items.drop count) (r.answers count).2 := by
  induction count generalizing items r with
  | zero => exact ⟨rfl, fails⟩
  | succ count ih =>
      obtain ⟨first, onward, _⟩ := fails.next
      obtain ⟨later, last⟩ := ih onward
      constructor
      · rw [Reader.answers, List.range_succ_eq_map, List.map_cons, List.map_map]
        dsimp only
        rw [first, later, ← List.head?_eq_getElem?]
        congr 1
        apply List.map_congr_left
        intro i _
        exact List.getElem?_tail
      · rw [Reader.answers]
        dsimp only
        rw [← List.drop_one, List.drop_drop] at last
        rwa [Nat.add_comm] at last

/-- Draining such a reader comes to the failure. -/
theorem drain (fails : FailsAfter reason items r) (found : List Item) :
    (r.drain found).2.failure = some reason := by
  fun_induction Reader.drain r found generalizing items with
  | case1 r found after ended =>
      obtain ⟨first, _, failed⟩ := fails.next
      rw [ended] at first failed
      exact failed (List.head?_eq_none_iff.1 first.symm)
  | case2 r found i after given ih =>
      obtain ⟨_, onward, _⟩ := fails.next
      rw [given] at onward
      exact ih onward

/-- Finishing such a reader tells the failure. -/
theorem finish (fails : FailsAfter reason items r) : r.finish = .error reason := by
  rw [Reader.finish, fails.drain []]

end FailsAfter

/-- A reader at the start of a source that delivers an input and then fails. -/
theorem failsAfter_ofSource {source : List Delivery} {input : Bytes} {cut : List Bytes}
    (delivered : Delivers source input) (isCut : Trace.EndedLines input cut) (reason : String)
    (tail : List Delivery) :
    FailsAfter reason (Trace.batch cut) (ofSource (source ++ .failure reason :: tail)) := by
  have fails : FailsAfter reason (Trace.itemsFrom 0 cut)
      (ofSource (source ++ .failure reason :: tail)) :=
    .ahead (r := ofSource _) rfl rfl delivered isCut
  rwa [Trace.itemsFrom_zero] at fails

end Reader
end TraceAudit
