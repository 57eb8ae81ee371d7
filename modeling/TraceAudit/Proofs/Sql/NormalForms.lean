import TraceAudit.Proofs.Sql.Numerals

/-!
# Normal forms of decimal literals

A text has a normal form only if it is a decimal literal. The normal form is exact, and it is the
same for two literals exactly if they denote one number. Exponents are integers without bounds here,
and none of them ever wraps: a literal has no normal form exactly if its exponent, that of its last
place or that of its last digit other than zero does not fit a word.
-/

namespace TraceAudit.Sql

/-- Whether an integer fits a word of sixty-four bits with a sign. -/
def FitsWord (n : Int) : Prop := -2 ^ 63 ≤ n ∧ n < 2 ^ 63

instance (n : Int) : Decidable (FitsWord n) :=
  inferInstanceAs (Decidable (_ ∧ _))

theorem holding?_signed64 (n : Int) :
    IntRange.signed64.holding? n = if FitsWord n then some n else none := by
  have same : (IntRange.signed64.least ≤ n ∧ n ≤ IntRange.signed64.greatest) ↔ FitsWord n := by
    simp only [IntRange.signed64, FitsWord]
    omega
  simp only [IntRange.holding?, same]

namespace Numeral

/-- The number that a numeral writes: its digits before the point and those behind it, times a power
of ten. -/
def amount (n : Numeral) : ℚ :=
  (if n.negative then -1 else 1) *
    (Decimal.natOfDigits n.whole + Decimal.natOfDigits n.places / 10 ^ n.places.length) *
    10 ^ n.exponent

theorem amount_eq_value (n : Numeral) : n.amount = n.value := by
  have ten : (10 : ℚ) ≠ 0 := by norm_num
  rw [amount, value, scaledValue, Decimal.natOfDigits_append, zpow_sub₀ ten, zpow_natCast]
  push_cast
  field_simp

theorem amount_eq_zero_iff (n : Numeral) :
    n.amount = 0 ↔ Decimal.natOfDigits (n.whole ++ n.places) = 0 := by
  rw [amount_eq_value, value, Decimal.scaledValue_eq_zero_iff]

/-- How many zeros a numeral has at its end. -/
def trailingZeros (n : Numeral) : Nat :=
  ((n.whole ++ n.places).reverse.takeWhile (· == '0')).length

/-- Whether the exponents of a numeral fit a word: the one that is written and, unless all digits
are zero, that of its last place and that of its last digit other than zero. -/
structure Fits (n : Numeral) : Prop where
  written : FitsWord n.exponent
  lastPlace : n.amount ≠ 0 → FitsWord (n.exponent - n.places.length)
  lastDigit : n.amount ≠ 0 → FitsWord (n.exponent - n.places.length + n.trailingZeros)

end Numeral

/-- A text is a decimal literal, and this is the number that it denotes. -/
def Denotes (text : String) (x : ℚ) : Prop :=
  ∃ n : Numeral, n.Writes (Text.trimChars text.toList) ∧ n.amount = x

namespace Decimal

/-! ## Zeros at either end -/

/-- Digits are all zero if they stand for zero. -/
theorem dropWhile_eq_nil_iff {cs : List Char} (all_digits : ∀ c ∈ cs, c.isDigit = true) :
    cs.dropWhile (· == '0') = [] ↔ natOfDigits cs = 0 := by
  constructor
  · intro none_left
    rw [← natOfDigits_dropWhile, none_left]
    rfl
  · intro zero
    by_contra some_left
    have significant := significant_of_trimmed all_digits some_left
    rw [← natOfDigits_dropWhile, natOfDigits_dropEndWhile] at zero
    rcases Nat.mul_eq_zero.1 zero with nothing | power
    · exact significant.ne_zero nothing
    · exact absurd power (by positivity)

theorem length_sub_dropEndWhile (p : Char → Bool) (cs : List Char) :
    cs.length - (Text.dropEndWhile p cs).length = (cs.reverse.takeWhile p).length := by
  have whole := congrArg List.length (List.takeWhile_append_dropWhile (p := p) (l := cs.reverse))
  rw [List.length_append, List.length_reverse] at whole
  rw [Text.dropEndWhile, List.length_reverse]
  omega

/-- Of the zeros at the end, none is lost with the zeros at the start if there are other digits. -/
theorem takeWhile_reverse_dropWhile {cs : List Char} (some_left : cs.dropWhile (· == '0') ≠ []) :
    (cs.dropWhile (· == '0')).reverse.takeWhile (· == '0') =
      cs.reverse.takeWhile (· == '0') := by
  have first := List.head?_dropWhile_not (· == '0') cs
  have whole := List.takeWhile_append_dropWhile (p := (· == '0')) (l := cs)
  obtain ⟨c, rest, leading⟩ := List.exists_cons_of_ne_nil some_left
  rw [leading] at first whole ⊢
  have stops := Text.takeWhile_append_stop (p := (· == '0')) first rest.reverse
  rw [← whole, List.reverse_append, List.reverse_cons, List.append_assoc, List.singleton_append,
    stops, stops]

/-! ## When there is a normal form -/

variable {n : Numeral}

/-- Zero has the normal form of zero, whatever its sign and its exponent. -/
theorem ofNumeral?_of_zero (all_digits : ∀ c ∈ n.whole ++ n.places, c.isDigit = true)
    (zero : n.amount = 0) : ofNumeral? n = some .zero := by
  have none_left := (dropWhile_eq_nil_iff all_digits).2 (n.amount_eq_zero_iff.1 zero)
  exact if_pos (List.isEmpty_iff.2 none_left)

/-- Any other numeral has its significant digits and the exponent of the last of them. -/
theorem ofNumeral?_of_nonzero (all_digits : ∀ c ∈ n.whole ++ n.places, c.isDigit = true)
    (nonzero : n.amount ≠ 0) :
    ofNumeral? n =
      if FitsWord (n.exponent - n.places.length) ∧
          FitsWord (n.exponent - n.places.length + n.trailingZeros) then
        some ⟨n.negative,
          Text.dropEndWhile (· == '0') ((n.whole ++ n.places).dropWhile (· == '0')),
          n.exponent - n.places.length + n.trailingZeros⟩
      else none := by
  have some_left : (n.whole ++ n.places).dropWhile (· == '0') ≠ [] := fun none_left =>
    nonzero (n.amount_eq_zero_iff.2 ((dropWhile_eq_nil_iff all_digits).1 none_left))
  have zeros := length_sub_dropEndWhile (· == '0') ((n.whole ++ n.places).dropWhile (· == '0'))
  rw [takeWhile_reverse_dropWhile some_left] at zeros
  rw [ofNumeral?]
  dsimp only
  rw [if_neg fun gone => some_left (List.isEmpty_iff.1 gone), zeros, holding?_signed64]
  by_cases place : FitsWord (n.exponent - n.places.length)
  · by_cases digit : FitsWord (n.exponent - n.places.length + n.trailingZeros)
    · have scaled : IntRange.signed64.holding? (n.exponent - n.places.length + n.trailingZeros) =
          some (n.exponent - n.places.length + n.trailingZeros) := by
        rw [holding?_signed64, if_pos digit]
      rw [if_pos place, if_pos ⟨place, digit⟩]
      exact congrArg (Option.bind · _) scaled
    · have unscaled : IntRange.signed64.holding? (n.exponent - n.places.length + n.trailingZeros) =
          none := by
        rw [holding?_signed64, if_neg digit]
      rw [if_pos place, if_neg fun both => digit both.2]
      exact congrArg (Option.bind · _) unscaled
  · rw [if_neg place, if_neg fun both => place both.1]
    rfl

/-- A literal has the normal form of its numeral, if its exponent fits. -/
theorem ofText?_of_writes {text : String} (written : n.Writes (Text.trimChars text.toList)) :
    ofText? text = if FitsWord n.exponent then ofNumeral? n else none := by
  rw [ofText?, Numeral.ofText?_of_writes written, holding?_signed64]
  split
  · rfl
  · rfl

/-- A literal has no normal form exactly if one of its exponents does not fit. -/
theorem ofText?_eq_none_iff {text : String}
    (written : n.Writes (Text.trimChars text.toList)) : ofText? text = none ↔ ¬n.Fits := by
  have all_digits := written.all_digits
  rw [ofText?_of_writes written]
  by_cases exponent : FitsWord n.exponent
  · rw [if_pos exponent]
    by_cases zero : n.amount = 0
    · rw [ofNumeral?_of_zero all_digits zero]
      refine iff_of_false (fun impossible => nomatch impossible) (not_not_intro ?_)
      exact ⟨exponent, (absurd zero ·), (absurd zero ·)⟩
    · rw [ofNumeral?_of_nonzero all_digits zero]
      have fits : n.Fits ↔ FitsWord (n.exponent - n.places.length) ∧
          FitsWord (n.exponent - n.places.length + n.trailingZeros) :=
        ⟨fun fits => ⟨fits.lastPlace zero, fits.lastDigit zero⟩,
          fun both => ⟨exponent, fun _ => both.1, fun _ => both.2⟩⟩
      rw [fits]
      split
      · rename_i both
        exact iff_of_false (fun impossible => nomatch impossible) (not_not_intro both)
      · rename_i not_both
        exact iff_of_true rfl not_both
  · rw [if_neg exponent]
    exact iff_of_true rfl fun fits => exponent fits.written

/-- The exponent of a normal form is that of the last digit, as an integer without bounds. -/
theorem exponent_of_ofText? {text : String} {d : Decimal}
    (written : n.Writes (Text.trimChars text.toList)) (read : ofText? text = some d)
    (nonzero : n.amount ≠ 0) :
    d.exponent = n.exponent - n.places.length + n.trailingZeros := by
  rw [ofText?_of_writes written, ofNumeral?_of_nonzero written.all_digits nonzero] at read
  split at read
  · split at read
    · rw [← Option.some.inj read]
    · cases read
  · cases read

/-- A text with a normal form denotes the number that the normal form stands for, and no other. -/
theorem denotes_iff {text : String} {d : Decimal} (read : ofText? text = some d) (x : ℚ) :
    Denotes text x ↔ x = d.value := by
  obtain ⟨n, parts, _, same⟩ := ofText?_sound read
  constructor
  · rintro ⟨m, written, rfl⟩
    rw [Numeral.ofText?_of_writes written] at parts
    obtain ⟨_, _, rfl⟩ := Option.map_eq_some_iff.1 parts
    rw [m.amount_eq_value, same]
  · rintro rfl
    exact ⟨n, Numeral.writes_of_ofText? parts, by rw [n.amount_eq_value, same]⟩

theorem IsNormal.eq_zero_iff {d : Decimal} (normal : d.IsNormal) : d.value = 0 ↔ d = .zero := by
  constructor
  · intro nothing
    exact normal.eq_of_value .zero (nothing.trans (scaledValue_eq_zero_iff.2 rfl).symm)
  · rintro rfl
    exact scaledValue_eq_zero_iff.2 rfl

/-- A text has a normal form only if it is a decimal literal. The normal form stands for the one
number that the literal denotes; it is zero if that is zero, and else has neither a zero at the
start nor one at the end of its digits, and the exact exponent of the last digit. Two texts with
normal forms have the same one exactly if they denote one number. A literal has no normal form
exactly if one of its exponents does not fit a word. -/
theorem normal_form_exact :
    (∀ text d, ofText? text = some d →
      (∀ x, Denotes text x ↔ x = d.value) ∧ d.IsNormal ∧ (d.value = 0 ↔ d = .zero) ∧
      ∀ n : Numeral, n.Writes (Text.trimChars text.toList) → n.amount ≠ 0 →
        d.exponent = n.exponent - n.places.length + n.trailingZeros) ∧
    (∀ text other c d, ofText? text = some c → ofText? other = some d →
      (c = d ↔ ∃ x, Denotes text x ∧ Denotes other x)) ∧
    (∀ text, ∀ n : Numeral, n.Writes (Text.trimChars text.toList) →
      (ofText? text = none ↔ ¬n.Fits)) := by
  refine ⟨fun text d read => ?_, fun text other c d first second => ?_,
    fun text n written => ofText?_eq_none_iff written⟩
  · obtain ⟨_, _, normal, _⟩ := ofText?_sound read
    exact ⟨denotes_iff read, normal, normal.eq_zero_iff,
      fun n written nonzero => exponent_of_ofText? written read nonzero⟩
  · simp only [denotes_iff first, denotes_iff second, exists_eq_left]
    obtain ⟨_, _, first_normal, _⟩ := ofText?_sound first
    obtain ⟨_, _, second_normal, _⟩ := ofText?_sound second
    exact ⟨congrArg value, first_normal.eq_of_value second_normal⟩

/-- The least number that is written with the least exponent and one place. -/
def deepNumeral : Numeral := ⟨false, ['0'], ['1'], -2 ^ 63⟩

theorem writes_deepNumeral :
    deepNumeral.Writes (Text.trimChars "0.1e-9223372036854775808".toList) := by
  have all_digits : ∀ c ∈ "9223372036854775808".toList, c.isDigit = true :=
    List.all_eq_true.1 (by decide)
  have integer : Numeral.WritesInteger (-2 ^ 63) ('-' :: "9223372036854775808".toList) :=
    .intro .minus all_digits (by decide)
  have parts : Numeral.WritesMantissa deepNumeral.whole deepNumeral.places "0.1".toList :=
    .point ['1']
  have scaled : Numeral.WritesScale deepNumeral.exponent
      ('e' :: '-' :: "9223372036854775808".toList) :=
    .power (.inl rfl) integer
  have sign : Numeral.WritesSign deepNumeral.negative [] := .bare
  exact .intro sign parts scaled (List.all_eq_true.1 (by decide)) (by decide)

/-- Two spellings of one number have one normal form, and a number has none if the exponent of its
last place lies below those of a word. -/
theorem respelled_number_normalized :
    (∃ x, Denotes "-0150" x ∧ Denotes " -1.50e+2" x) ∧
      ofText? "0.1e-9223372036854775808" = none := by
  obtain ⟨_, same, unfit⟩ := normal_form_exact
  have first : ofText? "-0150" = some ⟨true, ['1', '5'], 1⟩ := by decide +kernel
  have second : ofText? " -1.50e+2" = some ⟨true, ['1', '5'], 1⟩ := by decide +kernel
  have nonzero : deepNumeral.amount ≠ 0 := fun zero =>
    absurd (deepNumeral.amount_eq_zero_iff.1 zero) (by decide)
  refine ⟨(same _ _ _ _ first second).1 rfl, (unfit _ deepNumeral writes_deepNumeral).2 ?_⟩
  intro fits
  exact absurd (fits.lastPlace nonzero) (by decide)

end Decimal
end TraceAudit.Sql
