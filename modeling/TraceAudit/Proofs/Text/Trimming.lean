import Mathlib.Data.List.DropRight
import TraceAudit.Proofs.Text.Ascii

/-!
# Trimmed texts and letters

Trimming a text twice is trimming it once, and letters may be made small before or after it. So a
text that is trimmed but for the case of its letters has no blanks around it.
-/

namespace TraceAudit.Text

/-! ## Trimming -/

theorem isBlank_of_head?_dropBlanks {cs : List Char} {c : Char}
    (first : (dropBlanks cs).head? = some c) : isBlank c = false := by
  have shown := List.head?_dropWhile_not isBlank cs
  rw [dropBlanks] at first
  rw [first] at shown
  exact shown

theorem trimChars_trimChars (cs : List Char) : trimChars (trimChars cs) = trimChars cs := by
  have front : dropBlanks (trimChars cs) = trimChars cs := by
    cases shape : trimChars cs with
    | nil => rfl
    | cons c rest =>
        obtain ⟨tail, whole⟩ : trimChars cs <+: dropBlanks cs :=
          List.rdropWhile_prefix isBlank _
        have first : (dropBlanks cs).head? = some c := by
          rw [← whole, shape]
          rfl
        exact List.dropWhile_cons_of_neg (by simp [isBlank_of_head?_dropBlanks first])
  have back : dropEndWhile isBlank (trimChars cs) = trimChars cs :=
    List.rdropWhile_idempotent isBlank (dropBlanks cs)
  rw [trimChars, front, back]

@[simp] theorem trim_trim (s : String) : trim (trim s) = trim s := by
  rw [trim, trim, String.toList_ofList, trimChars_trimChars]

/-- A trimmed text of the length of the whole is the whole. -/
theorem trim_eq_self_of_length {s : String} (whole : s.length ≤ (trim s).length) : trim s = s := by
  have part : (trimChars s.toList).Sublist s.toList :=
    (List.rdropWhile_prefix isBlank _).sublist.trans (List.dropWhile_sublist isBlank)
  have same : trimChars s.toList = s.toList := by
    refine part.eq_of_length_le ?_
    rwa [← String.length_toList, ← String.length_toList, trim, String.toList_ofList] at whole
  rw [trim, same, String.ofList_toList]

/-! ## Letters -/

/-- Characters above ASCII have no case here. -/
theorem toUpper_of_not_ascii {c : Char} (above : 128 ≤ c.toNat) : c.toUpper = c := by
  refine dif_neg fun small => ?_
  have below : c.toNat ≤ 122 := small.2
  omega

@[simp] theorem toLower_toUpper (c : Char) : c.toUpper.toLower = c.toLower := by
  rcases Nat.lt_or_ge c.toNat 128 with ascii | above
  · exact ascii_induction (motive := fun c => c.toUpper.toLower = c.toLower) (by decide) ascii
  · rw [toUpper_of_not_ascii above]

@[simp] theorem toUpper_toLower (c : Char) : c.toLower.toUpper = c.toUpper := by
  rcases Nat.lt_or_ge c.toNat 128 with ascii | above
  · exact ascii_induction (motive := fun c => c.toLower.toUpper = c.toUpper) (by decide) ascii
  · rw [toLower_of_not_ascii above]

@[simp] theorem lower_upper (s : String) : lower (upper s) = lower s := by
  simp [lower, upper, Function.comp_def]

@[simp] theorem upper_lower (s : String) : upper (lower s) = upper s := by
  simp [lower, upper, Function.comp_def]

/-- Texts are the same in capital letters exactly if they are in small ones. -/
theorem upper_eq_upper_iff {s t : String} : upper s = upper t ↔ lower s = lower t :=
  ⟨fun same => by simpa using congrArg lower same, fun same => by simpa using congrArg upper same⟩

theorem isBlank_toLower (c : Char) : isBlank c.toLower = isBlank c := by
  rcases Nat.lt_or_ge c.toNat 128 with ascii | above
  · exact ascii_induction (motive := fun c => isBlank c.toLower = isBlank c) (by decide) ascii
  · rw [toLower_of_not_ascii above]

theorem trim_lower (s : String) : trim (lower s) = lower (trim s) := by
  have same : isBlank ∘ Char.toLower = isBlank := funext isBlank_toLower
  rw [trim, lower, lower, trim, String.toList_ofList, String.toList_ofList, trimChars, trimChars,
    dropBlanks, dropBlanks, dropEndWhile, dropEndWhile, List.dropWhile_map, same,
    ← List.map_reverse, List.dropWhile_map, same, List.map_reverse]

/-- A text that is the same as a trimmed one but for the case of letters is trimmed itself. -/
theorem trim_eq_self_of_lower_eq {s t : String} (same : lower (trim s) = lower t) : trim t = t := by
  have small : lower (trim t) = lower t := by
    rw [← trim_lower, ← same, trim_lower, trim_trim]
  have length (u : String) : (lower u).length = u.length := by
    simp [lower, ← String.length_toList]
  refine trim_eq_self_of_length ?_
  rw [← length t, ← length (trim t), small]

end TraceAudit.Text
