import Mathlib.Data.List.Basic
import TraceAudit.Proofs.Text.Ascii

/-!
# Texts on one line

A line break is a character at which a reader of a text may begin a new line, and a text without one
stays on one line wherever it is shown. Line breaks are blank, and a number holds none. Texts of one
line, each with a line feed after it, are cut at line breaks into themselves.
-/

namespace TraceAudit.Text

/-- Whether a new line begins after a character: a line feed or another of the four controls around
it, the control for the next line, or a separator of lines or paragraphs. -/
def isLineBreak (c : Char) : Bool :=
  (10 ≤ c.toNat && c.toNat ≤ 13) || c.toNat == 0x85 || c.toNat == 0x2028 || c.toNat == 0x2029

/-- A text without line breaks. -/
def IsOneLine (s : String) : Prop :=
  s.toList.any isLineBreak = false

instance (s : String) : Decidable (IsOneLine s) :=
  inferInstanceAs (Decidable (_ = false))

theorem isOneLine_iff {s : String} : IsOneLine s ↔ ∀ c ∈ s.toList, isLineBreak c = false := by
  simp [IsOneLine]

@[simp] theorem isOneLine_append {s t : String} :
    IsOneLine (s ++ t) ↔ IsOneLine s ∧ IsOneLine t := by
  simp [IsOneLine]

/-- Line breaks are blank. -/
theorem isLineBreak_eq_false {c : Char} (shown : isBlank c = false) :
    isLineBreak c = false := by
  simp only [isBlank, isLineBreak, Bool.or_eq_false_iff, Bool.and_eq_false_iff,
    decide_eq_false_iff_not, beq_eq_false_iff_ne] at shown ⊢
  omega

theorem isOneLine_of_visible {s : String} (visible : ∀ c ∈ s.toList, IsVisible c) : IsOneLine s :=
  isOneLine_iff.2 fun c found => isLineBreak_eq_false (visible c found).isBlank

@[simp] theorem isOneLine_natural (n : Nat) : IsOneLine (toString n) := by
  refine isOneLine_of_visible fun c found => ?_
  have digits : (toString n).toList = Nat.toDigits 10 n := Nat.toList_repr
  rw [digits] at found
  exact isVisible_of_mem_toDigits (by decide) (by decide) found

@[simp] theorem isOneLine_integer (n : Int) : IsOneLine (toString n) := by
  cases n with
  | ofNat n => exact isOneLine_natural n
  | negSucc n => exact isOneLine_append.2 ⟨by decide, isOneLine_natural (n + 1)⟩

/-- Names with a text between each two. -/
theorem isOneLine_intercalate {separator : String} {names : List String}
    (between : IsOneLine separator) (each : ∀ name ∈ names, IsOneLine name) :
    IsOneLine (separator.intercalate names) := by
  rw [isOneLine_iff, String.toList_intercalate]
  intro c found
  induction names with
  | nil => cases found
  | cons first rest ih =>
      have here := isOneLine_iff.1 (each first List.mem_cons_self) c
      have later := ih fun name listed => each name (List.mem_cons_of_mem first listed)
      cases rest with
      | nil => exact here (by simpa using found)
      | cons second others =>
          rw [List.map_cons, List.map_cons, List.intercalate_cons_cons] at found
          rcases List.mem_append.1 found with front | back
          · rcases List.mem_append.1 front with within | cut
            · exact here within
            · exact isOneLine_iff.1 between c cut
          · exact later back

/-! ## Lines -/

/-- Texts of one line, each with a line feed after it, are cut into themselves. -/
theorem pieces_join {lines : List String} (each : ∀ line ∈ lines, IsOneLine line) :
    pieces isLineBreak (String.join (lines.map (· ++ "\n"))).toList =
      lines.map String.toList ++ [[]] := by
  rw [String.toList_join, List.flatMap_map]
  induction lines with
  | nil => rfl
  | cons line rest ih =>
      have kept := isOneLine_iff.1 (each line List.mem_cons_self)
      have ended : (line ++ "\n").toList = line.toList ++ ['\n'] := String.toList_append
      rw [List.flatMap_cons, ended, List.append_assoc, List.singleton_append,
        pieces_append (by decide), pieces_of_kept kept,
        ih fun other listed => each other (List.mem_cons_of_mem line listed)]
      rfl

end TraceAudit.Text
