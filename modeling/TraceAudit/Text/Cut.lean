/-!
# Cutting texts

A text cut at the first, or at every, character of a kind. The characters cut at belong to no
piece.
-/

namespace TraceAudit.Text

/-- A text up to the first character that satisfies `p`, and what follows that character. -/
def cutAt (p : Char → Bool) : List Char → List Char × Option (List Char)
  | [] => ([], none)
  | c :: rest =>
      if p c then ([], some rest)
      else
        let (before, after) := cutAt p rest
        (c :: before, after)

/-- The pieces of a text between the characters that satisfy `p`. There is one more of them than
there are such characters. -/
def pieces (p : Char → Bool) : List Char → List (List Char)
  | [] => [[]]
  | c :: rest =>
      if p c then [] :: pieces p rest
      else
        match pieces p rest with
        | [] => [[c]]
        | first :: others => (c :: first) :: others

/-- Pieces with a character between each two. -/
def joined (separator : Char) (parts : List (List Char)) : List Char :=
  [separator].intercalate parts

theorem pieces_ne_nil (p : Char → Bool) (cs : List Char) : pieces p cs ≠ [] := by
  cases cs with
  | nil => simp [pieces]
  | cons c rest =>
    unfold pieces
    split
    · simp
    · split <;> simp

/-- Pieces joined by the character at which they were cut give the text back. -/
theorem joined_pieces (separator : Char) (cs : List Char) :
    joined separator (pieces (· == separator) cs) = cs := by
  induction cs with
  | nil => rfl
  | cons c rest ih =>
    unfold pieces
    by_cases h : c = separator
    · subst h
      simp only [beq_self_eq_true, ↓reduceIte]
      cases hp : pieces (· == c) rest with
      | nil => exact absurd hp (pieces_ne_nil _ _)
      | cons first others =>
        rw [hp] at ih
        simp only [joined, List.intercalate_cons_cons, List.nil_append,
          List.singleton_append] at ih ⊢
        rw [ih]
    · simp only [beq_iff_eq, h, ↓reduceIte]
      cases hp : pieces (· == separator) rest with
      | nil => exact absurd hp (pieces_ne_nil _ _)
      | cons first others =>
        rw [hp] at ih
        cases others with
        | nil => simp_all [joined, List.intercalate]
        | cons next more =>
          simp only [joined, List.intercalate_cons_cons, List.cons_append] at ih ⊢
          rw [ih]

end TraceAudit.Text
