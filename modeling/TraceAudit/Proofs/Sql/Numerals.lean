import TraceAudit.Proofs.Sql.DecimalValue
import TraceAudit.Proofs.Text.Cuts

/-!
# Texts of decimal literals

The grammar of decimal literals: a sign, if any, digits with a point among them or not, and an
exponent of ten, if any. What is read of a text is a numeral that the text writes, and a numeral
that is written is read if its exponent fits a word.
-/

namespace TraceAudit.Sql

namespace Numeral

/-! ## The grammar -/

/-- The ways to write whether a number is negative. -/
inductive WritesSign : Bool → List Char → Prop where
  | bare : WritesSign false []
  | plus : WritesSign false ['+']
  | minus : WritesSign true ['-']

/-- The ways to write an integer: digits, and a sign before them or none. -/
inductive WritesInteger : Int → List Char → Prop where
  | intro {negative : Bool} {sign digits : List Char} (signed : WritesSign negative sign)
      (all_digits : ∀ c ∈ digits, c.isDigit = true) (nonempty : digits ≠ []) :
      WritesInteger (if negative then -(Decimal.natOfDigits digits : Int) else
        Decimal.natOfDigits digits) (sign ++ digits)

/-- The ways to write an exponent of ten, which is zero if nothing is written. -/
inductive WritesScale : Int → List Char → Prop where
  | bare : WritesScale 0 []
  | power {mark : Char} {n : Int} {integer : List Char} (isMark : mark = 'e' ∨ mark = 'E')
      (written : WritesInteger n integer) : WritesScale n (mark :: integer)

/-- The ways to write digits and places: without a point, if there are no places, or with one. -/
inductive WritesMantissa (whole : List Char) : List Char → List Char → Prop where
  | integer : WritesMantissa whole [] whole
  | point (places : List Char) : WritesMantissa whole places (whole ++ '.' :: places)

/-- The ways to write a numeral: it has a digit at least, before its point or after it. -/
inductive Writes (n : Numeral) : List Char → Prop where
  | intro {sign mantissa scale : List Char} (signed : WritesSign n.negative sign)
      (parts : WritesMantissa n.whole n.places mantissa) (scaled : WritesScale n.exponent scale)
      (all_digits : ∀ c ∈ n.whole ++ n.places, c.isDigit = true)
      (nonempty : n.whole ++ n.places ≠ []) : Writes n (sign ++ (mantissa ++ scale))

theorem Writes.all_digits {n : Numeral} {cs : List Char} (written : n.Writes cs) :
    ∀ c ∈ n.whole ++ n.places, c.isDigit = true := by
  obtain ⟨_, _, _, all_digits, _⟩ := written
  exact all_digits

/-! ## Reading what is written -/

/-- What may follow a sign. -/
def IsUnsigned (cs : List Char) : Prop := cs.head? ≠ some '-' ∧ cs.head? ≠ some '+'

theorem isUnsigned_of_head? {cs : List Char}
    (first : ∀ c ∈ cs.head?, c.isDigit = true ∨ c = '.') : IsUnsigned cs := by
  constructor
  · intro minus
    rcases first '-' minus with digit | point
    · cases digit
    · cases point
  · intro plus
    rcases first '+' plus with digit | point
    · cases digit
    · cases point

theorem splitSign_append {negative : Bool} {sign rest : List Char}
    (signed : WritesSign negative sign) (unsigned : IsUnsigned rest) :
    splitSign (sign ++ rest) = (negative, rest) := by
  cases signed with
  | bare =>
      rw [List.nil_append]
      fun_cases splitSign rest with
      | case1 cs => exact absurd rfl unsigned.1
      | case2 cs => exact absurd rfl unsigned.2
      | case3 => rfl
  | plus => rfl
  | minus => rfl

theorem exists_sign (cs : List Char) :
    ∃ sign, WritesSign (splitSign cs).1 sign ∧ cs = sign ++ (splitSign cs).2 := by
  fun_cases splitSign cs with
  | case1 cs => exact ⟨['-'], .minus, rfl⟩
  | case2 cs => exact ⟨['+'], .plus, rfl⟩
  | case3 => exact ⟨[], .bare, rfl⟩

theorem nat?_eq_some_iff {cs : List Char} {n : Nat} :
    Decimal.nat? cs = some n ↔
      cs ≠ [] ∧ (∀ c ∈ cs, c.isDigit = true) ∧ Decimal.natOfDigits cs = n := by
  have accepted : ¬(cs.isEmpty || !cs.all Char.isDigit) = true ↔
      cs ≠ [] ∧ ∀ c ∈ cs, c.isDigit = true := by
    simp
  rw [Decimal.nat?]
  split
  · rename_i refused
    refine iff_of_false (fun impossible => nomatch impossible) fun read => ?_
    exact accepted.2 ⟨read.1, read.2.1⟩ refused
  · rename_i kept
    rw [Option.some.injEq, ← and_assoc, and_iff_right (accepted.1 kept)]

/-- An exponent is read as its sign and its digits. -/
theorem exponent?_eq (cs : List Char) :
    exponent? cs = (Decimal.nat? (splitSign cs).2).bind fun n =>
      IntRange.signed64.holding? (if (splitSign cs).1 then -(n : Int) else n) := by
  fun_cases splitSign cs with
  | case1 cs => rfl
  | case2 cs => rfl
  | case3 cs no_minus no_plus =>
      unfold exponent?
      split
      · exact absurd rfl (no_minus _)
      · exact absurd rfl (no_plus _)
      · rfl

/-- An integer that is written is read, if it fits. -/
theorem exponent?_of_writes {n : Int} {cs : List Char} (written : WritesInteger n cs) :
    exponent? cs = IntRange.signed64.holding? n := by
  cases written with
  | @intro negative sign digits signed all_digits nonempty =>
      have unsigned : IsUnsigned digits :=
        isUnsigned_of_head? fun c first => .inl (all_digits c (List.mem_of_head? first))
      rw [exponent?_eq, splitSign_append signed unsigned,
        nat?_eq_some_iff.2 ⟨nonempty, all_digits, rfl⟩]
      rfl

/-- An integer that is read is written. -/
theorem writes_of_exponent? {n : Int} {cs : List Char} (read : exponent? cs = some n) :
    WritesInteger n cs := by
  rw [exponent?_eq] at read
  obtain ⟨_, digits, held⟩ := Option.bind_eq_some_iff.1 read
  obtain ⟨nonempty, all_digits, rfl⟩ := nat?_eq_some_iff.1 digits
  obtain ⟨sign, signed, whole⟩ := exists_sign cs
  have written := WritesInteger.intro signed all_digits nonempty
  rwa [← whole, (IntRange.holding?_eq_some_iff.1 held).1] at written

/-! ### The parts of a literal -/

/-- Whether an exponent comes next. -/
abbrev isScaleMark (c : Char) : Bool := c == 'e' || c == 'E'

theorem isScaleMark_eq_false {c : Char} (plain : c.isDigit = true ∨ c = '.') :
    isScaleMark c = false := by
  rw [isScaleMark, Bool.or_eq_false_iff, beq_eq_false_iff_ne, beq_eq_false_iff_ne]
  rcases plain with digit | rfl
  · constructor
    · rintro rfl
      cases digit
    · rintro rfl
      cases digit
  · decide

theorem WritesMantissa.plain {whole places mantissa : List Char}
    (parts : WritesMantissa whole places mantissa)
    (all_digits : ∀ c ∈ whole ++ places, c.isDigit = true) :
    ∀ c ∈ mantissa, c.isDigit = true ∨ c = '.' := by
  intro c found
  cases parts with
  | integer => exact .inl (all_digits c (List.mem_append_left _ found))
  | point =>
      rcases List.mem_append.1 found with before | after
      · exact .inl (all_digits c (List.mem_append_left _ before))
      · rcases List.mem_cons.1 after with point | place
        · exact .inr point
        · exact .inl (all_digits c (List.mem_append_right _ place))

theorem WritesMantissa.ne_nil {whole places mantissa : List Char}
    (parts : WritesMantissa whole places mantissa) (nonempty : whole ++ places ≠ []) :
    mantissa ≠ [] := by
  cases parts with
  | integer => rwa [List.append_nil] at nonempty
  | point => exact List.append_ne_nil_of_right_ne_nil _ (List.cons_ne_nil _ _)

/-- A literal is cut where its exponent comes. -/
theorem cutAt_scale {exponent : Int} {mantissa scale : List Char}
    (unmarked : ∀ c ∈ mantissa, isScaleMark c = false) (scaled : WritesScale exponent scale) :
    ∃ tail, Text.cutAt isScaleMark (mantissa ++ scale) = (mantissa, tail) ∧
      tail.elim (some 0) exponent? = IntRange.signed64.holding? exponent := by
  cases scaled with
  | bare =>
      rw [List.append_nil]
      exact ⟨none, Text.cutAt_of_kept unmarked, rfl⟩
  | @power mark _ integer isMark written =>
      have cut : isScaleMark mark = true := by
        rcases isMark with rfl | rfl <;> rfl
      exact ⟨some integer, Text.cutAt_append unmarked cut integer, exponent?_of_writes written⟩

theorem exists_scale {exponent : Int} {cs : List Char}
    (read : (Text.cutAt isScaleMark cs).2.elim (some 0) exponent? = some exponent) :
    ∃ scale, WritesScale exponent scale ∧ cs = (Text.cutAt isScaleMark cs).1 ++ scale := by
  rcases Text.cutAt_cases isScaleMark cs with whole | ⟨before, mark, after, rfl, cut, parts⟩
  · rw [whole] at read ⊢
    obtain rfl := Option.some.inj read
    exact ⟨[], .bare, (List.append_nil cs).symm⟩
  · rw [parts] at read ⊢
    have isMark : mark = 'e' ∨ mark = 'E' := by simpa using cut
    exact ⟨mark :: after, .power isMark (writes_of_exponent? read), rfl⟩

/-- Digits and places are cut at the point. -/
theorem cutAt_point {whole places mantissa : List Char}
    (parts : WritesMantissa whole places mantissa)
    (all_digits : ∀ c ∈ whole, c.isDigit = true) :
    ∃ tail, Text.cutAt (· == '.') mantissa = (whole, tail) ∧ tail.getD [] = places := by
  have unpointed : ∀ c ∈ whole, (c == '.') = false := by
    intro c found
    refine beq_eq_false_iff_ne.2 ?_
    rintro rfl
    exact absurd (all_digits '.' found) (by decide)
  cases parts with
  | integer => exact ⟨none, Text.cutAt_of_kept unpointed, rfl⟩
  | point => exact ⟨some places, Text.cutAt_append unpointed rfl places, rfl⟩

theorem writesMantissa_cutAt (cs : List Char) :
    WritesMantissa (Text.cutAt (· == '.') cs).1 ((Text.cutAt (· == '.') cs).2.getD []) cs := by
  rcases Text.cutAt_cases (· == '.') cs with whole | ⟨before, mark, after, rfl, cut, parts⟩
  · rw [whole]
    exact .integer
  · rw [parts, beq_iff_eq.1 cut]
    exact .point after

/-! ### Whole literals -/

/-- A literal that is written is read, if its exponent fits. -/
theorem ofText?_of_writes {n : Numeral} {text : String}
    (written : n.Writes (Text.trimChars text.toList)) :
    ofText? text = (IntRange.signed64.holding? n.exponent).map fun _ => n := by
  unfold ofText?
  generalize Text.trimChars text.toList = cs at written
  cases written with
  | @intro sign mantissa scale signed parts scaled all_digits nonempty =>
      have plain := parts.plain all_digits
      have unsigned : IsUnsigned (mantissa ++ scale) := by
        refine isUnsigned_of_head? fun c first => ?_
        rw [List.head?_append_of_ne_nil _ (parts.ne_nil nonempty)] at first
        exact plain c (List.mem_of_head? first)
      obtain ⟨tail, cut, exponent⟩ :=
        cutAt_scale (fun c found => isScaleMark_eq_false (plain c found)) scaled
      obtain ⟨after, point, places⟩ :=
        cutAt_point parts fun c found => all_digits c (List.mem_append_left _ found)
      have accepted : ¬((n.whole ++ n.places).isEmpty ||
          !(n.whole ++ n.places).all Char.isDigit) = true := by
        rw [List.isEmpty_eq_false_iff.2 nonempty, List.all_eq_true.2 all_digits]
        decide
      simp only [splitSign_append signed unsigned, cut, exponent, point, places]
      cases held : IntRange.signed64.holding? n.exponent with
      | none => rfl
      | some e =>
          rw [← (IntRange.holding?_eq_some_iff.1 held).1]
          exact if_neg accepted

/-- A literal that is read is written. -/
theorem writes_of_ofText? {n : Numeral} {text : String} (read : ofText? text = some n) :
    n.Writes (Text.trimChars text.toList) := by
  have all_digits := digits_ofText? read
  unfold ofText? at read
  generalize Text.trimChars text.toList = cs at read ⊢
  obtain ⟨sign, signed, whole⟩ := exists_sign cs
  generalize splitSign cs = split_off at read signed whole
  obtain ⟨negative, rest⟩ := split_off
  obtain ⟨exponent, scaled, read⟩ := Option.bind_eq_some_iff.1 read
  obtain ⟨scale, power, unscaled⟩ := exists_scale scaled
  have parts := writesMantissa_cutAt (Text.cutAt isScaleMark rest).1
  dsimp only at read
  split at read
  · cases read
  · rename_i accepted
    rw [Bool.or_eq_true, not_or, List.isEmpty_iff] at accepted
    rw [whole, unscaled]
    obtain rfl := Option.some.inj read
    exact .intro signed parts power all_digits accepted.1

end Numeral
end TraceAudit.Sql
