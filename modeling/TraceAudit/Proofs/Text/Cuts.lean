import TraceAudit.Text.Cut

/-!
# Where a text is cut

A text is cut at the first character of a kind. What stands before it has no such character, and
whatever stands behind it has no part in where the cut is. A text without such a character is not
cut.
-/

namespace TraceAudit.Text

/-- What is taken up to a character that stops it does not depend on what comes after. -/
theorem takeWhile_append_stop {p : Char → Bool} {stop : Char} (stops : p stop = false)
    (before after : List Char) :
    (before ++ stop :: after).takeWhile p = before.takeWhile p := by
  induction before with
  | nil => rw [List.nil_append, List.takeWhile_cons_of_neg (by simp [stops]), List.takeWhile_nil]
  | cons c rest ih => rw [List.cons_append, List.takeWhile_cons, List.takeWhile_cons, ih]

/-- A text is cut at the first character of a kind. -/
theorem cutAt_append {p : Char → Bool} {before : List Char} (kept : ∀ c ∈ before, p c = false)
    {separator : Char} (cut : p separator = true) (after : List Char) :
    cutAt p (before ++ separator :: after) = (before, some after) := by
  induction before with
  | nil => rw [List.nil_append, cutAt, if_pos cut]
  | cons c rest ih =>
      have here := kept c List.mem_cons_self
      rw [List.cons_append, cutAt, if_neg (by simp [here]),
        ih fun d found => kept d (List.mem_cons_of_mem c found)]

/-- A text without a character of the kind is not cut. -/
theorem cutAt_of_kept {p : Char → Bool} {cs : List Char} (kept : ∀ c ∈ cs, p c = false) :
    cutAt p cs = (cs, none) := by
  induction cs with
  | nil => rfl
  | cons c rest ih =>
      have here := kept c List.mem_cons_self
      rw [cutAt, if_neg (by simp [here]), ih fun d found => kept d (List.mem_cons_of_mem c found)]

/-- A text has no character of the kind, or it is cut at the first one. -/
theorem cutAt_cases (p : Char → Bool) (cs : List Char) :
    cutAt p cs = (cs, none) ∨
      ∃ before separator after, cs = before ++ separator :: after ∧ p separator = true ∧
        cutAt p cs = (before, some after) := by
  induction cs with
  | nil => exact .inl rfl
  | cons c rest ih =>
      by_cases cut : p c = true
      · exact .inr ⟨[], c, rest, rfl, cut, by rw [cutAt, if_pos cut]⟩
      · rcases ih with whole | ⟨before, separator, after, rfl, stops, parts⟩
        · exact .inl (by rw [cutAt, if_neg cut, whole])
        · refine .inr ⟨c :: before, separator, after, rfl, stops, ?_⟩
          rw [cutAt, if_neg cut, parts]

end TraceAudit.Text
