import Mathlib.Data.List.Induction
import TraceAudit.Proofs.Text.OneLine
import TraceAudit.Proofs.Web.Hosts

/-!
# Addresses as they are printed

An address of four bytes is printed as four numbers without needless zeros, and such a text is read
as the address that it was printed for. Other writings of an address, in fewer parts or to another
base, are printed differently.
-/

namespace TraceAudit

namespace Text

/-- Joined parts are cut into the parts. -/
theorem pieces_joined {separator : Char} {parts : List (List Char)} (some_part : parts ≠ [])
    (kept : ∀ part ∈ parts, ∀ c ∈ part, (c == separator) = false) :
    pieces (· == separator) (joined separator parts) = parts := by
  induction parts with
  | nil => exact absurd rfl some_part
  | cons first rest ih =>
      have here := kept first List.mem_cons_self
      cases rest with
      | nil => rw [joined_singleton, pieces_of_kept here]
      | cons second others =>
          have later := ih (List.cons_ne_nil second others)
            fun part listed => kept part (List.mem_cons_of_mem first listed)
          rw [joined_cons_cons, pieces_append (p := (· == separator)) (beq_self_eq_true separator),
            pieces_of_kept here, later]
          rfl

end Text

namespace Web

/-! ## Numbers -/

theorem hexValue?_of_isDigit {c : Char} (digit : c.isDigit = true) :
    hexValue? c = some (c.toNat - '0'.toNat) ∧ c.toNat - '0'.toNat < 10 := by
  refine ⟨if_pos digit, ?_⟩
  simp only [Char.isDigit, Bool.and_eq_true, decide_eq_true_eq] at digit
  have most : c.toNat ≤ 57 := digit.2
  have zero : '0'.toNat = 48 := rfl
  omega

theorem digitChar_of_isDigit {c : Char} (digit : c.isDigit = true) :
    Nat.digitChar (c.toNat - '0'.toNat) = c := by
  have ascii : c.toNat < 128 := by
    simp only [Char.isDigit, Bool.and_eq_true, decide_eq_true_eq] at digit
    have most : c.toNat ≤ 57 := digit.2
    omega
  exact Text.ascii_induction
    (motive := fun c => c.isDigit = true → Nat.digitChar (c.toNat - '0'.toNat) = c) (by decide)
    ascii digit

/-- Decimal digits stand for a number. -/
theorem number?_of_digits {digits : List Char} (each : ∀ c ∈ digits, c.isDigit = true) :
    number? 10 digits = some (Nat.ofDigitChars 10 digits 0) := by
  have fold (n : Nat) : digits.foldlM (fun n c => do
        let d ← hexValue? c
        if d < 10 then return 10 * n + d else none) n =
      some (Nat.ofDigitChars 10 digits n) := by
    induction digits generalizing n with
    | nil => rfl
    | cons c rest ih =>
        obtain ⟨value, small⟩ := hexValue?_of_isDigit (each c List.mem_cons_self)
        rw [List.foldlM_cons, value]
        simp only [Option.bind_eq_bind, Option.bind_some, if_pos small]
        exact ih (fun d found => each d (List.mem_cons_of_mem c found)) _
  exact fold 0

/-- Digits that do not start with a needless zero are those of their number. -/
theorem toDigits_ofDigitChars {digits : List Char} (some_digit : digits ≠ [])
    (each : ∀ c ∈ digits, c.isDigit = true)
    (proper : digits.length = 1 ∨ digits.head? ≠ some '0') :
    Nat.toDigits 10 (Nat.ofDigitChars 10 digits 0) = digits := by
  -- By induction from the last digit, which is the number modulo ten.
  induction digits using List.reverseRecOn with
  | nil => exact absurd rfl some_digit
  | append_singleton front c ih =>
      have digit := each c (List.mem_append_right front List.mem_cons_self)
      have small := (hexValue?_of_isDigit digit).2
      have value : Nat.ofDigitChars 10 (front ++ [c]) 0 =
          10 * Nat.ofDigitChars 10 front 0 + (c.toNat - '0'.toNat) := by
        rw [Nat.ofDigitChars_append]
        rfl
      rw [value]
      by_cases empty : front = []
      · subst empty
        have one : 10 * Nat.ofDigitChars 10 [] 0 + (c.toNat - '0'.toNat) =
            c.toNat - '0'.toNat := Nat.zero_add _
        rw [one, Nat.toDigits_eq_if (by decide), if_pos small, digitChar_of_isDigit digit]
        rfl
      · have head : front.head? ≠ some '0' := by
          have several : (front ++ [c]).length ≠ 1 := by
            have positive := List.length_pos_iff.2 empty
            rw [List.length_append, List.length_singleton]
            omega
          have first := proper.resolve_left several
          rwa [List.head?_append, Option.or_of_isSome (List.isSome_head?.2 empty)] at first
        have before := ih empty (fun d found => each d (List.mem_append_left [c] found))
          (.inr head)
        have positive : Nat.ofDigitChars 10 front 0 ≠ 0 := by
          intro zero
          rw [zero] at before
          exact head (before ▸ rfl)
        have quotient : (10 * Nat.ofDigitChars 10 front 0 + (c.toNat - '0'.toNat)) / 10 =
            Nat.ofDigitChars 10 front 0 := by omega
        have remainder : (10 * Nat.ofDigitChars 10 front 0 + (c.toNat - '0'.toNat)) % 10 =
            c.toNat - '0'.toNat := by omega
        rw [Nat.toDigits_eq_if (by decide), if_neg (by omega), quotient, remainder, before,
          digitChar_of_isDigit digit]

/-! ## Addresses of four bytes -/

namespace IPv4

/-- A byte in decimal is read as the number that it writes. -/
theorem part?_of_isByte {part : List Char} (byte : isByte part = true) :
    ∃ n, part? part = some n ∧ n ≤ 255 ∧ Nat.toDigits 10 n = part ∧ part ≠ [] := by
  simp only [isByte, Bool.and_eq_true, Bool.not_eq_true', List.all_eq_true] at byte
  obtain ⟨⟨⟨⟨some_digit, _⟩, each⟩, zeros⟩, bound⟩ := byte
  have nonempty : part ≠ [] := by simpa using some_digit
  have proper : part.length = 1 ∨ part.head? ≠ some '0' := by
    have positive := List.length_pos_iff.2 nonempty
    by_cases one : part.length = 1
    · exact .inl one
    · have several : part.length > 1 := by omega
      exact .inr (by simpa [several] using zeros)
  have value := number?_of_digits each
  rw [value] at bound
  have decimal : part? part = number? 10 part := by
    have no_zero (c : Char) (rest : List Char) : part ≠ '0' :: c :: rest := by
      rintro rfl
      simp at proper
    unfold part?
    split
    · exact absurd rfl nonempty
    · exact absurd rfl (no_zero _ _)
    · exact absurd rfl (no_zero _ _)
    · exact absurd rfl (no_zero _ _)
    · rfl
  refine ⟨_, decimal.trans value, by simpa using bound, ?_, nonempty⟩
  exact toDigits_ofDigitChars nonempty each proper

theorem isByte_toDigits : ∀ n < 256, isByte (Nat.toDigits 10 n) = true := by
  decide +kernel

/-- The four parts of the text of an address. -/
def textParts (address : Nat) : List (List Char) :=
  [3, 2, 1, 0].map fun i => Nat.toDigits 10 (address / Nat.pow 256 i % 256)

theorem text_eq_joined (address : Nat) : text address = Text.joined '.' (textParts address) := by
  have digits (n : Nat) : (toString n).toList = Nat.toDigits 10 n := Nat.toList_repr
  simp only [text, textParts, digits]

/-- An address ends in the digits of its last byte. -/
theorem exists_text_eq (address : Nat) :
    ∃ front, text address = front ++ Nat.toDigits 10 (address / Nat.pow 256 0 % 256) := by
  obtain ⟨a, b, c, four⟩ : ∃ a b c, textParts address =
      [a, b, c, Nat.toDigits 10 (address / Nat.pow 256 0 % 256)] := ⟨_, _, _, rfl⟩
  refine ⟨a ++ '.' :: (b ++ '.' :: (c ++ ['.'])), ?_⟩
  rw [text_eq_joined, four]
  simp [Text.joined_cons_cons]

theorem pieces_text (address : Nat) :
    Text.pieces (· == '.') (text address) = textParts address := by
  rw [text_eq_joined]
  refine Text.pieces_joined (List.cons_ne_nil _ _) fun part listed c found => ?_
  obtain ⟨place, _, rfl⟩ := List.mem_map.1 listed
  exact Text.of_mem_toDigits (motive := fun c => (c == '.') = false) (by decide) (by decide)
    (by decide) found

/-- An address is printed plainly. -/
theorem isPlain_text (address : Nat) : isPlain (text address) = true := by
  rw [isPlain, pieces_text]
  simp only [Bool.and_eq_true, List.all_eq_true]
  refine ⟨rfl, fun part listed => ?_⟩
  obtain ⟨place, _, rfl⟩ := List.mem_map.1 listed
  exact isByte_toDigits _ (Nat.mod_lt _ (by decide))

/-- The four bytes of an address. -/
theorem textParts_eq {a b c d : Nat} (small_a : a ≤ 255) (small_b : b ≤ 255) (small_c : c ≤ 255)
    (small_d : d ≤ 255) :
    textParts (16777216 * a + 65536 * b + 256 * c + d) =
      [Nat.toDigits 10 a, Nat.toDigits 10 b, Nat.toDigits 10 c, Nat.toDigits 10 d] := by
  have first : (16777216 * a + 65536 * b + 256 * c + d) / Nat.pow 256 3 % 256 = a := by
    rw [show Nat.pow 256 3 = 16777216 from rfl]
    omega
  have second : (16777216 * a + 65536 * b + 256 * c + d) / Nat.pow 256 2 % 256 = b := by
    rw [show Nat.pow 256 2 = 65536 from rfl]
    omega
  have third : (16777216 * a + 65536 * b + 256 * c + d) / Nat.pow 256 1 % 256 = c := by
    rw [show Nat.pow 256 1 = 256 from rfl]
    omega
  have fourth : (16777216 * a + 65536 * b + 256 * c + d) / Nat.pow 256 0 % 256 = d := by
    rw [show Nat.pow 256 0 = 1 from rfl]
    omega
  simp only [textParts, List.map_cons, List.map_nil, first, second, third, fourth]

/-- A plain text is read as the address that it is printed for. -/
theorem ofHost?_of_isPlain {host : List Char} (plain : isPlain host = true) :
    ∃ address, ofHost? host = some address ∧ text address = host := by
  simp only [isPlain, Bool.and_eq_true, beq_iff_eq, List.all_eq_true] at plain
  obtain ⟨four, bytes⟩ := plain
  obtain ⟨a, b, c, d, shape⟩ := List.length_eq_four.1 four
  have whole := Text.joined_pieces '.' host
  rw [shape] at bytes whole
  obtain ⟨first, read_a, small_a, text_a, _⟩ := part?_of_isByte (bytes a (by simp))
  obtain ⟨second, read_b, small_b, text_b, _⟩ := part?_of_isByte (bytes b (by simp))
  obtain ⟨third, read_c, small_c, text_c, _⟩ := part?_of_isByte (bytes c (by simp))
  obtain ⟨fourth, read_d, small_d, text_d, last⟩ := part?_of_isByte (bytes d (by simp))
  have read : ofHost? host =
      some (16777216 * first + 65536 * second + 256 * third + fourth) := by
    have parts_eq : parts host = [a, b, c, d] := by simp [parts, shape, last]
    have bounds : ((first ≤ 255 ∧ second ≤ 255 ∧ third ≤ 255) ∧ fourth < 256) ∧
        256 * (256 * (256 * first + second) + third) =
          16777216 * first + 65536 * second + 256 * third := by omega
    simpa [ofHost?, parts_eq, read_a, read_b, read_c, read_d] using bounds
  refine ⟨_, read, ?_⟩
  rw [text_eq_joined, textParts_eq small_a small_b small_c small_d, text_a, text_b, text_c, text_d,
    whole]

end IPv4
end Web
end TraceAudit
