import TraceAudit.Proofs.Trace.Items

/-!
# Sources that end more than once

A source may say that its input has ended and deliver more to who asks again. A reader that goes on
keeps its books whatever its source does: the lines that it takes are added to those taken, and they
are numbered on. Where a source delivers nothing more after its end, a reader that asks again takes
nothing more.
-/

namespace TraceAudit

open Delivery (cutLine readLine)

namespace Trace

theorem itemsFrom_append (line : Nat) (cut later : List Bytes) :
    itemsFrom line (cut ++ later) =
      itemsFrom line cut ++ itemsFrom (line + cut.length) later := by
  induction cut generalizing line with
  | nil => rfl
  | cons bytes rest ih =>
      rw [List.cons_append, itemsFrom, itemsFrom, ih, List.append_assoc, List.length_cons,
        Nat.add_assoc line 1, Nat.add_comm 1]

end Trace

namespace Delivery

/-- A source that delivers nothing more. It may still fail. -/
def IsSilent (source : List Delivery) : Prop :=
  ∀ chunk, .bytes chunk ∈ source → chunk = []

/-- A source that delivers nothing more once it has said that its input has ended. -/
def EndsForGood : List Delivery → Prop
  | [] => True
  | .pause :: rest => IsSilent rest
  | _ :: rest => EndsForGood rest

/-- A source that delivers nothing more ends for good. -/
theorem IsSilent.endsForGood {source : List Delivery} (silent : IsSilent source) :
    EndsForGood source := by
  induction source with
  | nil => trivial
  | cons d rest ih =>
      have later : IsSilent rest := fun chunk there => silent chunk (List.mem_cons_of_mem d there)
      cases d with
      | pause => exact later
      | bytes chunk => exact ih later
      | interrupt => exact ih later
      | failure reason => exact ih later

/-- Asked for a line, a source that delivers nothing more gives what was begun or fails. -/
theorem readLine_of_isSilent {source : List Delivery} (silent : IsSilent source) (begun : Bytes) :
    (readLine begun source).1 = .line begun ∨
      ∃ reason, (readLine begun source).1 = .failed reason := by
  induction source with
  | nil => exact .inl rfl
  | cons d rest ih =>
      have later : IsSilent rest := fun chunk there => silent chunk (List.mem_cons_of_mem d there)
      cases d with
      | interrupt => exact ih later
      | pause => exact .inl rfl
      | failure reason => exact .inr ⟨reason, rfl⟩
      | bytes chunk =>
          obtain rfl := silent chunk List.mem_cons_self
          rw [readLine, cutLine]
          simpa using ih later

/-- After a line, a source still ends for good; and when it gave none, it has ended. -/
theorem EndsForGood.readLine {source : List Delivery} (ends : EndsForGood source)
    (begun : Bytes) :
    EndsForGood (readLine begun source).2 ∧
      ((Delivery.readLine begun source).1 = .line [] →
        IsSilent (Delivery.readLine begun source).2) := by
  induction source generalizing begun with
  | nil => exact ⟨ends, fun _ _ there => nomatch there⟩
  | cons d rest ih =>
      cases d with
      | interrupt => exact ih ends begun
      | pause => exact ⟨IsSilent.endsForGood ends, fun _ => ends⟩
      | failure reason => exact ⟨ends, fun impossible => nomatch impossible⟩
      | bytes chunk =>
          rw [Delivery.readLine]
          split
          · exact ih ends _
          · refine ⟨ends, fun empty => ?_⟩
            have nothing := LineRead.line.inj empty
            simp at nothing

namespace Ends

variable {source rest : List Delivery} {cut : List Bytes}

/-- The lines that a source gives are not empty. -/
theorem nonempty (ends : Ends source cut rest) : ∀ line ∈ cut, line ≠ [] := by
  induction ends with
  | here read => exact fun _ impossible => absurd impossible List.not_mem_nil
  | line read shown _ ih => exact List.forall_mem_cons.2 ⟨shown, ih⟩

/-- The lines that a source gives have bytes, unless there are none. -/
theorem flatten_eq_nil_iff (ends : Ends source cut rest) : cut.flatten = [] ↔ cut = [] := by
  refine ⟨fun empty => List.eq_nil_iff_forall_not_mem.2 fun line there => ?_, fun none => ?_⟩
  · exact ends.nonempty line there (List.flatten_eq_nil_iff.1 empty line there)
  · rw [none]
    rfl

/-- A source that delivers nothing more gives no lines. -/
theorem eq_nil_of_isSilent (ends : Ends source cut rest) (silent : IsSilent source) : cut = [] := by
  cases ends with
  | here read => rfl
  | line read shown _ =>
      rcases readLine_of_isSilent silent [] with none_begun | ⟨reason, failed⟩
      · rw [read] at none_begun
        exact absurd (LineRead.line.inj none_begun) shown
      · rw [read] at failed
        cases failed

/-- When a source that ends for good has ended, it delivers nothing more. -/
theorem isSilent (ends : Ends source cut rest) (for_good : EndsForGood source) :
    IsSilent rest := by
  induction ends with
  | here read =>
      have onward := for_good.readLine []
      rw [read] at onward
      exact onward.2 rfl
  | line read _ _ ih =>
      have onward := for_good.readLine []
      rw [read] at onward
      exact ih onward.1

end Ends
end Delivery

namespace Reader

/-- The bytes of all lines that a reader has taken. -/
def bytesTaken (r : Reader) : Bytes :=
  r.taken.reverse.flatten

theorem bytesTaken_afterLines (r : Reader) (cut : List Bytes) (rest : List Delivery) :
    (r.afterLines cut rest).bytesTaken = r.bytesTaken ++ cut.flatten := by
  rw [bytesTaken, afterLines, List.reverse_append, List.reverse_reverse, List.flatten_append]
  rfl

/-- Finishing a reader adds the lines left unread, up to where the source ends, to those taken. -/
theorem finish_of_ends {r : Reader} {unread : List Bytes} {rest : List Delivery}
    (sound : r.failure = none) (ends : Delivery.Ends r.source unread rest) :
    r.finish = .ok ⟨Sha256.hexDigest (r.bytesTaken ++ unread.flatten),
      r.nonBlank + (Trace.itemsFrom r.lines unread).length⟩ := by
  rw [finish, drain_of_ends ends sound rfl, ← bytesTaken_afterLines r unread rest]
  rfl

/-- The digest after the lines that a source gives up to its end is of these and of the lines that it
gives to who asks once more. -/
theorem finish_afterLines {source rest last : List Delivery} {seen unseen : List Bytes}
    (again : Delivery.Ends rest unseen last) :
    ((ofSource source).afterLines seen rest).finish =
      .ok ⟨Sha256.hexDigest (seen ++ unseen).flatten,
        (Trace.itemsFrom 0 (seen ++ unseen)).length⟩ := by
  rw [finish_of_ends rfl again, bytesTaken_afterLines, List.flatten_append,
    Trace.itemsFrom_append, List.length_append]
  simp [bytesTaken, afterLines, ofSource]

/-- Finishing a reader whose source fails tells the failure. -/
theorem finish_of_fails {r : Reader} {reason : String} (sound : r.failure = none)
    (fails : Delivery.Fails r.source reason) : r.finish = .error reason := by
  rw [finish, failure_drain_of_fails fails sound rfl]

/-- Finishing a reader that has failed tells the failure. -/
theorem finish_of_failed {r : Reader} {reason : String} (failed : r.failure = some reason) :
    r.finish = .error reason := by
  rw [finish, drain_of_none (next_of_failure failed), failed]

/-- A reader that can be finished has not failed. -/
theorem failure_of_finish {r : Reader} {digest : InputDigest} (finished : r.finish = .ok digest) :
    r.failure = none := by
  cases failed : r.failure with
  | none => rfl
  | some reason =>
      rw [finish_of_failed failed] at finished
      cases finished

end Reader
end TraceAudit
