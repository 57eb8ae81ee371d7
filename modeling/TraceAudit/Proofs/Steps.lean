/-!
# Steps that may fail

A computation of several steps succeeds exactly if each step does, on what the one before it gave.
-/

namespace TraceAudit

variable {ε α β : Type}

/-- Two steps succeed exactly if the first does and the second does on its result. -/
theorem bind_eq_ok_iff {first : Except ε α} {second : α → Except ε β} {result : β} :
    first >>= second = .ok result ↔ ∃ found, first = .ok found ∧ second found = .ok result := by
  cases first with
  | error e =>
      constructor
      · intro impossible
        cases impossible
      · rintro ⟨found, impossible, _⟩
        cases impossible
  | ok found => exact ⟨fun done => ⟨found, rfl, done⟩, fun ⟨_, same, done⟩ => by
      cases same
      exact done⟩

/-- What is made of a result was made of one that succeeded. -/
theorem map_eq_ok_iff {result : Except ε α} {make : α → β} {made : β} :
    result.map make = .ok made ↔ ∃ found, result = .ok found ∧ make found = made := by
  cases result with
  | error e =>
      constructor
      · intro impossible
        cases impossible
      · rintro ⟨found, impossible, _⟩
        cases impossible
  | ok found => exact ⟨fun done => ⟨found, rfl, Except.ok.inj done⟩, fun ⟨_, same, done⟩ => by
      cases same
      exact congrArg Except.ok done⟩

/-- What each step preserves, a run of steps over a list preserves. -/
theorem foldlM_preserves {step : β → α → Except ε β} (Holds : β → Prop) {entries : List α}
    (preserved : ∀ entry ∈ entries, ∀ state next,
      step state entry = .ok next → Holds state → Holds next)
    {start result : β} (run : entries.foldlM step start = .ok result) (holds : Holds start) :
    Holds result := by
  induction entries generalizing start with
  | nil =>
      rw [List.foldlM_nil] at run
      exact Except.ok.inj run ▸ holds
  | cons entry rest ih =>
      rw [List.foldlM_cons] at run
      obtain ⟨next, stepped, run⟩ := bind_eq_ok_iff.1 run
      exact ih (fun e listed => preserved e (List.mem_cons_of_mem entry listed)) run
        (preserved entry List.mem_cons_self start next stepped holds)

/-- Where each step either refuses its entry, whatever the state, or takes it, a run gives the first
refusal, or else what all entries make of the start. -/
theorem foldlM_eq_elim {step : β → α → Except ε β} {refusal? : α → Option ε} {take : β → α → β}
    (step_eq : ∀ state entry,
      step state entry = (refusal? entry).elim (.ok (take state entry)) .error)
    (entries : List α) (start : β) :
    entries.foldlM step start =
      (entries.filterMap refusal?).head?.elim (.ok (entries.foldl take start)) .error := by
  induction entries generalizing start with
  | nil => rfl
  | cons entry rest ih =>
      rw [List.foldlM_cons, step_eq, List.filterMap_cons]
      cases refused : refusal? entry with
      | some e => rfl
      | none => exact ih (take start entry)

end TraceAudit
