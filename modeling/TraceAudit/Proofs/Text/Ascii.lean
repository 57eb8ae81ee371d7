import TraceAudit.Text.AsciiCase
import TraceAudit.Text.Blank
import TraceAudit.Text.Cut

/-!
# Texts of visible characters

The characters of ASCII that can be seen: none of them is blank, and they stay visible in small
letters. Trimming leaves a text of them as it is.
-/

namespace TraceAudit.Text

/-- What holds of each of the first 128 characters holds of all characters of ASCII. -/
theorem ascii_induction {motive : Char → Prop} (each : ∀ n, n < 128 → motive (Char.ofNat n))
    {c : Char} (ascii : c.toNat < 128) : motive c := by
  have holds := each c.toNat ascii
  rwa [Char.ofNat_toNat] at holds

/-- Characters above ASCII have no case here. -/
theorem toLower_of_not_ascii {c : Char} (above : 128 ≤ c.toNat) : c.toLower = c := by
  refine dif_neg fun capital => ?_
  have below : c.toNat ≤ 90 := capital.2
  omega

@[simp] theorem toLower_toLower (c : Char) : c.toLower.toLower = c.toLower := by
  rcases Nat.lt_or_ge c.toNat 128 with ascii | above
  · exact ascii_induction (motive := fun c => c.toLower.toLower = c.toLower) (by decide) ascii
  · rw [toLower_of_not_ascii above, toLower_of_not_ascii above]

/-- A character of ASCII that is neither a control nor a space. -/
def IsVisible (c : Char) : Prop :=
  32 < c.toNat ∧ c.toNat < 127

instance (c : Char) : Decidable (IsVisible c) :=
  inferInstanceAs (Decidable (_ ∧ _))

theorem IsVisible.ascii {c : Char} (visible : IsVisible c) : c.toNat < 128 :=
  Nat.lt_succ_of_lt visible.2

theorem IsVisible.isBlank {c : Char} (visible : IsVisible c) : isBlank c = false :=
  ascii_induction (motive := fun c => IsVisible c → Text.isBlank c = false) (by decide)
    visible.ascii visible

theorem IsVisible.toLower {c : Char} (visible : IsVisible c) : IsVisible c.toLower :=
  ascii_induction (motive := fun c => IsVisible c → IsVisible c.toLower) (by decide)
    visible.ascii visible

/-- A text without blanks is left as it is. -/
theorem trimChars_of_visible {cs : List Char} (visible : ∀ c ∈ cs, IsVisible c) :
    trimChars cs = cs := by
  have kept (ds : List Char) (all : ∀ c ∈ ds, IsVisible c) : ds.dropWhile isBlank = ds := by
    cases ds with
    | nil => rfl
    | cons d rest =>
        have shown := (all d List.mem_cons_self).isBlank
        rw [List.dropWhile_cons, shown]
        rfl
  have backwards : ∀ c ∈ cs.reverse, IsVisible c := fun c found =>
    visible c (List.mem_reverse.1 found)
  rw [trimChars, dropBlanks, kept cs visible, dropEndWhile, kept _ backwards, List.reverse_reverse]

@[simp] theorem joined_singleton (separator : Char) (part : List Char) :
    joined separator [part] = part := by
  simp [joined]

theorem joined_cons_cons (separator : Char) (first second : List Char)
    (others : List (List Char)) :
    joined separator (first :: second :: others) =
      first ++ separator :: joined separator (second :: others) := by
  simp [joined]

/-- Joined pieces hold the characters of the pieces and the one between them. -/
theorem eq_or_mem_of_mem_joined {separator c : Char} {parts : List (List Char)}
    (found : c ∈ joined separator parts) : c = separator ∨ ∃ part ∈ parts, c ∈ part := by
  induction parts with
  | nil => cases found
  | cons first rest ih =>
      cases rest with
      | nil =>
          have here : c ∈ first := by simpa using found
          exact .inr ⟨first, List.mem_cons_self, here⟩
      | cons second others =>
          rw [joined_cons_cons, List.mem_append, List.mem_cons] at found
          rcases found with here | rfl | later
          · exact .inr ⟨first, List.mem_cons_self, here⟩
          · exact .inl rfl
          · rcases ih later with between | ⟨part, listed, within⟩
            · exact .inl between
            · exact .inr ⟨part, List.mem_cons_of_mem first listed, within⟩

theorem pieces_of_kept {p : Char → Bool} {cs : List Char} (kept : ∀ c ∈ cs, p c = false) :
    pieces p cs = [cs] := by
  induction cs with
  | nil => rfl
  | cons c rest ih =>
      have here : ¬p c = true := by simp [kept c List.mem_cons_self]
      rw [pieces, if_neg here, ih fun d found => kept d (List.mem_cons_of_mem c found)]

/-- What stands before a character at which a text is cut and what stands after it are cut apart
from each other. -/
theorem pieces_append {p : Char → Bool} {mark : Char} (cut : p mark = true)
    (before rest : List Char) :
    pieces p (before ++ mark :: rest) = pieces p before ++ pieces p rest := by
  induction before with
  | nil =>
      have first : pieces p (mark :: rest) = [] :: pieces p rest := if_pos cut
      exact first
  | cons c before ih =>
      rw [List.cons_append, pieces, pieces, ih]
      cases cut_before : pieces p before with
      | nil => exact absurd cut_before (pieces_ne_nil p before)
      | cons first others => split <;> rfl

/-- The characters of a piece are of the text, and at none of them it is cut. -/
theorem of_mem_pieces {p : Char → Bool} {cs part : List Char} (listed : part ∈ pieces p cs) :
    ∀ c ∈ part, c ∈ cs ∧ p c = false := by
  induction cs generalizing part with
  | nil =>
      rw [List.mem_singleton.1 listed]
      exact fun _ impossible => absurd impossible List.not_mem_nil
  | cons d rest ih =>
      have later {piece : List Char} (there : piece ∈ pieces p rest) (c : Char)
          (found : c ∈ piece) : c ∈ d :: rest ∧ p c = false :=
        (ih there c found).imp_left (List.mem_cons_of_mem d)
      unfold pieces at listed
      split at listed
      · rcases List.mem_cons.1 listed with rfl | there
        · exact fun _ impossible => absurd impossible List.not_mem_nil
        · exact later there
      · rename_i kept
        have here : d ∈ d :: rest ∧ p d = false :=
          ⟨List.mem_cons_self, Bool.eq_false_iff.2 kept⟩
        split at listed
        · rename_i none_left
          exact absurd none_left (pieces_ne_nil p rest)
        · rename_i first others some_left
          rcases List.mem_cons.1 listed with rfl | there
          · intro c found
            rcases List.mem_cons.1 found with rfl | within
            · exact here
            · exact later (some_left ▸ List.mem_cons_self) c within
          · exact later (some_left ▸ List.mem_cons_of_mem first there)

/-- What holds of the first sixteen digits holds of those of a number to a base up to sixteen. -/
theorem of_mem_toDigits {motive : Char → Prop} (each : ∀ d, d < 16 → motive d.digitChar)
    {base n : Nat} (proper : 1 < base) (usual : base ≤ 16) {c : Char}
    (found : c ∈ Nat.toDigits base n) : motive c := by
  have digit (d : Nat) (below : d < base) : motive d.digitChar :=
    each d (Nat.lt_of_lt_of_le below usual)
  induction n using Nat.strongRecOn with
  | ind n ih =>
      rw [Nat.toDigits_eq_if proper] at found
      split at found
      · rename_i small
        rw [List.mem_singleton.1 found]
        exact digit n small
      · rename_i large
        rcases List.mem_append.1 found with before | last
        · exact ih (n / base) (Nat.div_lt_self (by omega) proper) before
        · rw [List.mem_singleton.1 last]
          exact digit (n % base) (Nat.mod_lt n (by omega))

/-- The digits of a number to a base up to sixteen are visible. -/
theorem isVisible_of_mem_toDigits {base n : Nat} (proper : 1 < base) (usual : base ≤ 16) {c : Char}
    (found : c ∈ Nat.toDigits base n) : IsVisible c :=
  of_mem_toDigits (by decide) proper usual found

end TraceAudit.Text
