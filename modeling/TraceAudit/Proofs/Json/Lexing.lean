import Mathlib.Data.List.TakeDrop
import Mathlib.Data.Option.Basic
import TraceAudit.Json.Parse
import TraceAudit.Json.Print

/-!
# Tokens of written text

What is written between quotes is read as the string that it was written for, and the digits of an
integer of sixty-four bits as that integer, unless the number goes on behind them. So a text is cut
into tokens piece by piece, whatever comes later.
-/

namespace TraceAudit.Json

/-! ## Strings -/

/-- A letter that stands for a character is read as that character. -/
theorem escaped?_of_escapeLetter? {c letter : Char} (escape : escapeLetter? c = some letter) :
    letter ≠ 'u' ∧ escaped? letter = some c := by
  have known {n : Nat} (same : c.toNat = n) : c = Char.ofNat n := by
    rw [← same, Char.ofNat_toNat]
  unfold escapeLetter? at escape
  split at escape
  case h_8 => cases escape
  -- The letter is one of seven, each for one character.
  all_goals
    rename_i code
    obtain rfl := known code
    obtain rfl := Option.some.inj escape
    decide

/-- Four digits as one number. -/
def hexText? : List Char → Option Nat
  | [a, b, c, d] => hex4? a b c d
  | _ => none

theorem hexText?_hex4 : ∀ n < 32, hexText? (hex4 n) = some n := by
  decide

/-- A control written as four digits is read as that control. -/
theorem scanString_hex4 {n : Nat} (control : n < 32) (read rest : List Char) :
    scanString read ('\\' :: 'u' :: (hex4 n ++ rest)) = scanString (Char.ofNat n :: read) rest := by
  have value := hexText?_hex4 n control
  generalize hex4 n = digits at value
  unfold hexText? at value
  split at value
  · have low : n < 0xD800 := by omega
    simp [scanString, value, low]
  · cases value

/-- A character is read as it was written. -/
theorem scanString_escapeChar (c : Char) (read rest : List Char) :
    scanString read (escapeChar c ++ rest) = scanString (c :: read) rest := by
  unfold escapeChar
  split
  · rename_i letter escape
    obtain ⟨short, stands⟩ := escaped?_of_escapeLetter? escape
    simp [scanString, short, stands]
  · rename_i plain
    have quote : c ≠ '"' := fun same => absurd plain (same ▸ by decide)
    have backslash : c ≠ '\\' := fun same => absurd plain (same ▸ by decide)
    split
    · rename_i control
      rw [List.cons_append, List.cons_append, scanString_hex4 control, Char.ofNat_toNat]
    · rename_i shown
      have allowed : ¬(decide (c.toNat < 0x20) || c == '\\') = true := by simp [shown, backslash]
      rw [List.singleton_append, scanString, if_neg allowed]
      · exact quote
      · exact fun _ _ _ _ _ same _ => backslash same
      · exact fun _ _ same _ => backslash same

/-- A string is read as it was written. -/
theorem scanString_escaped (cs read rest : List Char) :
    scanString read (cs.flatMap escapeChar ++ '"' :: rest) =
      some (String.ofList (read.reverse ++ cs), rest) := by
  induction cs generalizing read with
  | nil => simp [scanString]
  | cons c cs ih =>
      rw [List.flatMap_cons, List.append_assoc, scanString_escapeChar, ih, List.reverse_cons,
        List.append_assoc, List.singleton_append]

/-! ## Numbers -/

/-- Whether a text goes on with the number before it. -/
def continuesNumber : List Char → Bool
  | [] => false
  | c :: _ => c.isDigit || c == '.' || c == 'e' || c == 'E'

theorem spanDigits_append {digits rest : List Char} (each : ∀ c ∈ digits, c.isDigit = true)
    (ended : continuesNumber rest = false) : spanDigits (digits ++ rest) = (digits, rest) := by
  have none_left : rest.takeWhile Char.isDigit = [] ∧ rest.dropWhile Char.isDigit = rest := by
    cases rest with
    | nil => exact ⟨rfl, rfl⟩
    | cons c rest =>
        simp only [continuesNumber, Bool.or_eq_false_iff] at ended
        simp [ended.1.1.1]
  rw [spanDigits, List.span_eq_takeWhile_dropWhile, List.takeWhile_append_of_pos each,
    List.dropWhile_append_of_pos each, none_left.1, none_left.2, List.append_nil]

theorem scanPlaces_of_ended {rest : List Char} (ended : continuesNumber rest = false) :
    scanPlaces rest = some ([], rest) := by
  unfold scanPlaces
  split
  · simp [continuesNumber] at ended
  · rfl

theorem scanExponent_of_ended {rest : List Char} (ended : continuesNumber rest = false) :
    scanExponent rest = some (none, rest) := by
  cases rest with
  | nil => rfl
  | cons c rest =>
      simp only [continuesNumber, Bool.or_eq_false_iff] at ended
      simp [scanExponent, ended.1.2, ended.2]

theorem le_ofDigitChars (digits : List Char) (n : Nat) : n ≤ Nat.ofDigitChars 10 digits n := by
  rw [Nat.ofDigitChars_eq_ofDigitChars_zero]
  exact Nat.le_add_right_of_le (Nat.le_mul_of_pos_left n (Nat.pow_pos (by decide)))

/-- Digits whose number fits are gathered to the last. -/
theorem gather_eq {significand taken : Nat} {digits : List Char}
    (fits : Nat.ofDigitChars 10 digits significand ≤ maxSignificand) :
    gather significand taken digits =
      (Nat.ofDigitChars 10 digits significand, taken + digits.length) := by
  induction digits generalizing significand taken with
  | nil => rfl
  | cons d rest ih =>
      have one : Nat.ofDigitChars 10 (d :: rest) significand =
          Nat.ofDigitChars 10 rest (significand * 10 + digitValue d) := by
        rw [Nat.mul_comm]
        rfl
      rw [one] at fits ⊢
      have next := Nat.le_trans (le_ofDigitChars rest _) fits
      rw [gather, if_pos next, ih fits, List.length_cons]
      congr 1
      omega

theorem head?_toDigits {n : Nat} (positive : 0 < n) : (Nat.toDigits 10 n).head? ≠ some '0' := by
  induction n using Nat.strongRecOn with
  | ind n ih =>
      rw [Nat.toDigits_eq_if (by decide)]
      split
      · rename_i small
        have each : ∀ d < 10, 0 < d → [d.digitChar].head? ≠ some '0' := by decide
        exact each n small positive
      · rename_i large
        have before := ih (n / 10) (by omega) (by omega)
        rw [List.head?_append, Option.or_of_isSome (List.isSome_head?.2 Nat.toDigits_ne_nil)]
        exact before

/-- The digits of a number are the whole part of a numeral. -/
theorem proper_toDigits (n : Nat) :
    (guard (!(Nat.toDigits 10 n).isEmpty &&
      ((Nat.toDigits 10 n).length == 1 || (Nat.toDigits 10 n).head? != some '0')) : Option Unit) =
        some () := by
  refine if_pos ?_
  have some_digit : (Nat.toDigits 10 n).isEmpty = false := by
    simp [Nat.toDigits_ne_nil]
  rcases Nat.eq_zero_or_pos n with rfl | positive
  · decide
  · simp [some_digit, head?_toDigits positive]

/-- A numeral of digits alone that fit is an integer. -/
theorem value?_toDigits {n : Nat} (negative : Bool) (fits : n ≤ maxSignificand) :
    Numeral.value? ⟨negative, Nat.toDigits 10 n, [], none⟩ = integerOfParts negative n := by
  have whole : Nat.ofDigitChars 10 (Nat.toDigits 10 n) 0 = n :=
    Nat.ofDigitChars_toDigits (by decide) (by decide)
  have gathered : gather 0 0 (Nat.toDigits 10 n) = (n, (Nat.toDigits 10 n).length) := by
    rw [gather_eq (whole.symm ▸ fits), whole, Nat.zero_add]
  simp [Numeral.value?, gathered]

/-- Whether an integer is one of sixty-four bits, with a sign or without. -/
def IsWord (n : Int) : Prop :=
  IntRange.signed64.least ≤ n ∧ n ≤ IntRange.unsigned64.greatest

instance (n : Int) : Decidable (IsWord n) :=
  inferInstanceAs (Decidable (_ ∧ _))

/-- Digits are read to the last, with the sign before them. -/
theorem scanNumber_toDigits {n : Nat} (fits : n ≤ maxSignificand) {rest : List Char}
    (ended : continuesNumber rest = false) :
    scanNumber (Nat.toDigits 10 n ++ rest) = (integerOfParts false n).map (·, rest) ∧
      scanNumber ('-' :: (Nat.toDigits 10 n ++ rest)) =
        (integerOfParts true n).map (·, rest) := by
  have digit : ∀ c ∈ Nat.toDigits 10 n, c.isDigit = true :=
    fun c found => Nat.isDigit_of_mem_toDigits (by decide) (by decide) found
  have unsigned (tail : List Char) : Nat.toDigits 10 n ++ rest ≠ '-' :: tail := by
    obtain ⟨d, ds, shape⟩ := List.exists_cons_of_ne_nil (Nat.toDigits_ne_nil (n := n) (b := 10))
    rw [shape, List.cons_append]
    intro same
    have head := digit d (shape ▸ List.mem_cons_self)
    rw [(List.cons.inj same).1] at head
    cases head
  have after (negative : Bool) :
      (scanPlaces rest >>= fun places => scanExponent places.2 >>= fun exponent =>
          Numeral.value? ⟨negative, Nat.toDigits 10 n, places.1, exponent.1⟩ >>= fun value =>
            return (value, exponent.2)) = (integerOfParts negative n).map (·, rest) := by
    rw [scanPlaces_of_ended ended, Option.bind_eq_bind, Option.bind_some,
      scanExponent_of_ended ended, Option.bind_eq_bind, Option.bind_some,
      value?_toDigits negative fits, Option.map_eq_bind]
    rfl
  constructor
  · rw [scanNumber, spanDigits_append digit ended]
    · dsimp only
      rw [proper_toDigits]
      exact after false
    · exact unsigned
  · rw [scanNumber, spanDigits_append digit ended]
    dsimp only
    rw [proper_toDigits]
    exact after true

theorem toList_integer (n : Int) :
    (toString n).toList = (if n < 0 then ['-'] else []) ++ Nat.toDigits 10 n.natAbs := by
  cases n with
  | ofNat n => exact Nat.toList_repr
  | negSucc n =>
      have signed : toString (Int.negSucc n) = "-" ++ toString (n + 1) := rfl
      have digits : (toString (n + 1)).toList = Nat.toDigits 10 (n + 1) := Nat.toList_repr
      rw [signed, String.toList_append, digits, if_pos (Int.negSucc_lt_zero n)]
      rfl

/-- The text of an integer is read as the integer. -/
theorem scanNumber_integer {n : Int} (word : IsWord n) {rest : List Char}
    (ended : continuesNumber rest = false) :
    scanNumber ((toString n).toList ++ rest) = some (.integer n, rest) := by
  obtain ⟨low, high⟩ := word
  simp only [IntRange.signed64, IntRange.unsigned64] at low high
  have fits : n.natAbs ≤ maxSignificand := by
    unfold maxSignificand
    omega
  rw [toList_integer]
  split
  · rename_i negative
    have held : IntRange.signed64.holding? (-(n.natAbs : Int)) = some n :=
      IntRange.holding?_eq_some_iff.2 (by simp only [IntRange.signed64]; omega)
    have nonzero : n.natAbs ≠ 0 := by omega
    rw [List.singleton_append, List.cons_append, (scanNumber_toDigits fits ended).2,
      integerOfParts, if_pos rfl, if_neg nonzero, held]
    rfl
  · rename_i natural
    have same : ((n.natAbs : Nat) : Int) = n := by omega
    rw [List.nil_append, (scanNumber_toDigits fits ended).1, integerOfParts, if_neg (by simp),
      same]
    rfl

/-! ## Tokens -/

/-- Where a number starts, the token is a number. -/
theorem scanToken_number {c : Char} (numeric : c.isDigit = true ∨ c = '-') (rest : List Char) :
    scanToken (c :: rest) =
      (scanNumber (c :: rest)).map fun (n, rest) => (.number n, rest) := by
  unfold scanToken
  split <;>
    first
    | rfl
    | (rename_i begins; obtain ⟨rfl, rfl⟩ := List.cons.inj begins; simp at numeric)

/-- The text of an integer starts with a digit or a sign. -/
theorem exists_numeric (n : Int) :
    ∃ c cs, (toString n).toList = c :: cs ∧ (c.isDigit = true ∨ c = '-') := by
  obtain ⟨d, ds, shape⟩ :=
    List.exists_cons_of_ne_nil (Nat.toDigits_ne_nil (n := n.natAbs) (b := 10))
  have digit : d.isDigit = true :=
    Nat.isDigit_of_mem_toDigits (by decide) (by decide) (shape ▸ List.mem_cons_self)
  rw [toList_integer, shape]
  split
  · exact ⟨_, _, rfl, .inr rfl⟩
  · exact ⟨_, _, rfl, .inl digit⟩

theorem isSpace_of_numeric {c : Char} (numeric : c.isDigit = true ∨ c = '-') :
    isSpace c = false := by
  simp only [isSpace, Bool.or_eq_false_iff, beq_eq_false_iff_ne]
  refine ⟨⟨⟨?_, ?_⟩, ?_⟩, ?_⟩ <;> rintro rfl <;> simp at numeric

/-- A text and its tokens. -/
inductive Lexed : List Char → List Token → Prop where
  | nil : Lexed [] []
  | space {c : Char} {cs : List Char} {tokens : List Token} (blank : isSpace c = true)
      (later : Lexed cs tokens) : Lexed (c :: cs) tokens
  | token {c : Char} {cs rest : List Char} {t : Token} {tokens : List Token}
      (shown : isSpace c = false) (found : scanToken (c :: cs) = some (t, rest))
      (shorter : rest.length ≤ cs.length) (later : Lexed rest tokens) :
      Lexed (c :: cs) (t :: tokens)

/-- The tokens of a text are found in as many steps as the text has characters. -/
theorem Lexed.scanSteps {cs : List Char} {tokens : List Token} (lexed : Lexed cs tokens)
    (found : List Token) {steps : Nat} (enough : cs.length ≤ steps) :
    Json.scanSteps found steps cs = some (found.reverse ++ tokens) := by
  induction lexed generalizing found steps with
  | nil => simp [Json.scanSteps]
  | space blank _ ih =>
      obtain ⟨steps, rfl⟩ := Nat.exists_eq_add_of_le' (Nat.le_trans (Nat.succ_pos _) enough)
      rw [Json.scanSteps, if_pos blank]
      exact ih found (Nat.le_of_succ_le_succ enough)
  | token shown scanned shorter _ ih =>
      obtain ⟨steps, rfl⟩ := Nat.exists_eq_add_of_le' (Nat.le_trans (Nat.succ_pos _) enough)
      have fewer := Nat.le_trans shorter (Nat.le_of_succ_le_succ enough)
      rw [Json.scanSteps, if_neg (Bool.eq_false_iff.1 shown), scanned]
      dsimp only
      rw [ih _ fewer, List.reverse_cons, List.append_assoc, List.singleton_append]

theorem Lexed.scan {s : String} {tokens : List Token} (lexed : Lexed s.toList tokens) :
    Json.scan s = some tokens :=
  lexed.scanSteps [] (Nat.le_refl _)

/-- A string between quotes is one token. -/
theorem Lexed.quote {rest : List Char} {tokens : List Token} (s : String)
    (later : Lexed rest tokens) : Lexed (quote s ++ rest) (.string s :: tokens) := by
  have scanned : scanToken ('"' :: (s.toList.flatMap escapeChar ++ '"' :: rest)) =
      some (.string s, rest) := by
    rw [scanToken, scanString_escaped]
    simp
  rw [Json.quote, List.cons_append, List.append_assoc, List.singleton_append]
  refine .token rfl scanned ?_ later
  rw [List.length_append, List.length_cons]
  omega

/-- An integer that does not go on is one token. -/
theorem Lexed.integer {n : Int} (word : IsWord n) {rest : List Char} {tokens : List Token}
    (ended : continuesNumber rest = false) (later : Lexed rest tokens) :
    Lexed ((toString n).toList ++ rest) (.number (.integer n) :: tokens) := by
  have scanned := scanNumber_integer word ended
  obtain ⟨c, cs, shape, numeric⟩ := exists_numeric n
  rw [shape, List.cons_append] at scanned ⊢
  refine .token ?_ ?_ ?_ later
  · exact isSpace_of_numeric numeric
  · rw [scanToken_number numeric, scanned]
    rfl
  · rw [List.length_append]
    omega

end TraceAudit.Json
