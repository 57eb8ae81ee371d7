import Mathlib.Algebra.Order.Field.Power
import Mathlib.Data.List.DropRight
import Mathlib.Data.Nat.Digits.Defs
import Mathlib.Data.Rat.Cast.CharZero
import Mathlib.Tactic.FieldSimp
import Mathlib.Tactic.Ring
import TraceAudit.Sql.Decimal

/-!
# Values of decimal literals

The rational number that a numeral writes, and the proof that normal forms are exact and unique: the
normal form of a numeral has the numeral's value, and two normal forms with one value are the same.
-/

namespace TraceAudit.Sql

/-- The number `± n · 10 ^ exponent`. -/
def scaledValue (negative : Bool) (n : Nat) (exponent : Int) : ℚ :=
  (if negative then -1 else 1) * n * 10 ^ exponent

/-- The number that a numeral writes. -/
def Numeral.value (n : Numeral) : ℚ :=
  scaledValue n.negative (Decimal.natOfDigits (n.whole ++ n.places)) (n.exponent - n.places.length)

namespace Decimal

/-- The number that a normal form stands for. -/
def value (d : Decimal) : ℚ :=
  scaledValue d.negative (natOfDigits d.digits) d.exponent

/-! ## Digits -/

/-- The number that a digit stands for. -/
def digitValue (c : Char) : Nat := c.toNat - '0'.toNat

/-- Digits are read as those of a number to base ten, the last one first. -/
theorem natOfDigits_eq_ofDigits (cs : List Char) :
    natOfDigits cs = Nat.ofDigits 10 (cs.reverse.map digitValue) := by
  have fold (n : Nat) : cs.foldl (fun n d => 10 * n + digitValue d) n =
      Nat.ofDigits 10 (cs.reverse.map digitValue) + 10 ^ cs.length * n := by
    induction cs generalizing n with
    | nil => simp
    | cons c rest ih =>
        rw [List.foldl_cons, ih, List.reverse_cons, List.map_append, Nat.ofDigits_append,
          List.length_map, List.length_reverse, List.length_cons, List.map_singleton,
          Nat.ofDigits_singleton]
        ring
  have all := fold 0
  rw [Nat.mul_zero, Nat.add_zero] at all
  exact all

theorem natOfDigits_append (cs ds : List Char) :
    natOfDigits (cs ++ ds) = natOfDigits cs * 10 ^ ds.length + natOfDigits ds := by
  rw [natOfDigits_eq_ofDigits, List.reverse_append, List.map_append, Nat.ofDigits_append,
    ← natOfDigits_eq_ofDigits, ← natOfDigits_eq_ofDigits, List.length_map, List.length_reverse,
    Nat.mul_comm, Nat.add_comm]

/-- Zeros are zero. -/
theorem natOfDigits_zeros {cs : List Char} (zeros : ∀ c ∈ cs, c = '0') : natOfDigits cs = 0 := by
  induction cs with
  | nil => rfl
  | cons c rest ih =>
      have here := zeros c List.mem_cons_self
      have later := ih fun d found => zeros d (List.mem_cons_of_mem c found)
      have one : natOfDigits ['0'] = 0 := rfl
      rw [here, ← List.singleton_append, natOfDigits_append, one, later, Nat.zero_mul]

theorem eq_zero_of_mem_takeWhile {cs : List Char} {c : Char}
    (found : c ∈ cs.takeWhile (· == '0')) : c = '0' := by
  have zero := List.mem_takeWhile_imp (p := (· == '0')) found
  exact beq_iff_eq.1 zero

/-- Zeros at the start do not count. -/
theorem natOfDigits_dropWhile (cs : List Char) :
    natOfDigits (cs.dropWhile (· == '0')) = natOfDigits cs := by
  have zeros : ∀ c ∈ cs.takeWhile (· == '0'), c = '0' := fun _ found =>
    eq_zero_of_mem_takeWhile found
  have whole := congrArg natOfDigits (List.takeWhile_append_dropWhile (p := (· == '0')) (l := cs))
  rw [natOfDigits_append, natOfDigits_zeros zeros, Nat.zero_mul, Nat.zero_add] at whole
  exact whole

/-- Each zero at the end stands for a factor of ten. -/
theorem natOfDigits_dropEndWhile (cs : List Char) :
    natOfDigits cs = natOfDigits (Text.dropEndWhile (· == '0') cs) *
      10 ^ (cs.length - (Text.dropEndWhile (· == '0') cs).length) := by
  have zeros : ∀ c ∈ (cs.reverse.takeWhile (· == '0')).reverse, c = '0' := fun _ found =>
    eq_zero_of_mem_takeWhile (List.mem_reverse.1 found)
  have whole :
      Text.dropEndWhile (· == '0') cs ++ (cs.reverse.takeWhile (· == '0')).reverse = cs := by
    rw [Text.dropEndWhile, ← List.reverse_append, List.takeWhile_append_dropWhile,
      List.reverse_reverse]
  generalize Text.dropEndWhile (· == '0') cs = kept at whole ⊢
  generalize (cs.reverse.takeWhile (· == '0')).reverse = dropped at whole zeros
  subst whole
  rw [natOfDigits_append, natOfDigits_zeros zeros, List.length_append, Nat.add_sub_cancel_left,
    Nat.add_zero]

theorem digitValue_lt {c : Char} (digit : c.isDigit = true) : digitValue c < 10 := by
  obtain ⟨_, greatest⟩ := Char.isDigit_iff_toNat.1 digit
  have bound : '9'.toNat = '0'.toNat + 9 := rfl
  unfold digitValue
  omega

/-- A digit is determined by the number that it stands for. -/
theorem ofNat_digitValue {c : Char} (digit : c.isDigit = true) :
    Char.ofNat (digitValue c + '0'.toNat) = c := by
  obtain ⟨least, _⟩ := Char.isDigit_iff_toNat.1 digit
  rw [digitValue, Nat.sub_add_cancel least, Char.ofNat_toNat]

theorem digitValue_inj {c d : Char} (first : c.isDigit = true) (second : d.isDigit = true)
    (same : digitValue c = digitValue d) : c = d := by
  rw [← ofNat_digitValue first, same, ofNat_digitValue second]

theorem map_ofNat_digitValue {cs : List Char} (digits : ∀ c ∈ cs, c.isDigit = true) :
    (cs.map digitValue).map (fun n => Char.ofNat (n + '0'.toNat)) = cs := by
  rw [List.map_map]
  have same : ∀ c ∈ cs, Char.ofNat (digitValue c + '0'.toNat) = id c :=
    fun c found => ofNat_digitValue (digits c found)
  exact (List.map_congr_left same).trans (List.map_id cs)

/-- Digits of which neither the first nor the last is zero. -/
structure Significant (digits : List Char) : Prop where
  all_digits : ∀ c ∈ digits, c.isDigit = true
  nonempty : digits ≠ []
  first : digits.head nonempty ≠ '0'
  last : digits.getLast nonempty ≠ '0'

/-- The number of significant digits is no multiple of ten. -/
theorem Significant.not_dvd {cs : List Char} (significant : Significant cs) :
    ¬ 10 ∣ natOfDigits cs := by
  intro multiple
  have digit := significant.all_digits _ (List.getLast_mem significant.nonempty)
  rw [← List.dropLast_append_getLast significant.nonempty, natOfDigits_append] at multiple
  have last : natOfDigits [cs.getLast significant.nonempty] =
      digitValue (cs.getLast significant.nonempty) := by
    simp [natOfDigits, digitValue]
  have bound := digitValue_lt digit
  rw [last, List.length_singleton] at multiple
  have zero : digitValue (cs.getLast significant.nonempty) = digitValue '0' := by
    rw [show digitValue '0' = 0 from rfl]
    omega
  exact significant.last (digitValue_inj digit rfl zero)

/-- Significant digits are those of their number. -/
theorem Significant.digits_natOfDigits {cs : List Char} (significant : Significant cs) :
    Nat.digits 10 (natOfDigits cs) = cs.reverse.map digitValue := by
  rw [natOfDigits_eq_ofDigits]
  refine Nat.digits_ofDigits 10 (by decide) _ (fun n found => ?_) fun nonempty zero => ?_
  · obtain ⟨c, there, rfl⟩ := List.mem_map.1 found
    exact digitValue_lt (significant.all_digits c (List.mem_reverse.1 there))
  · rw [List.getLast_map, List.getLast_reverse] at zero
    have digit := significant.all_digits _ (List.head_mem significant.nonempty)
    exact significant.first (digitValue_inj digit rfl zero)

theorem Significant.eq_of_natOfDigits {cs ds : List Char} (first : Significant cs)
    (second : Significant ds) (same : natOfDigits cs = natOfDigits ds) : cs = ds := by
  have values := first.digits_natOfDigits
  rw [same, second.digits_natOfDigits, List.map_reverse, List.map_reverse] at values
  rw [← map_ofNat_digitValue first.all_digits, ← List.reverse_inj.1 values,
    map_ofNat_digitValue second.all_digits]

theorem Significant.ne_zero {cs : List Char} (significant : Significant cs) :
    natOfDigits cs ≠ 0 :=
  fun zero => significant.not_dvd (zero ▸ Nat.dvd_zero 10)

theorem Significant.ne_singleton_zero {cs : List Char} (significant : Significant cs) :
    cs ≠ ['0'] := by
  rintro rfl
  exact significant.first rfl

/-- Digits are significant once the zeros at either end are gone, if there is more than zeros. -/
theorem significant_of_trimmed {cs : List Char} (digits : ∀ c ∈ cs, c.isDigit = true)
    (nonzero : cs.dropWhile (· == '0') ≠ []) :
    Significant (Text.dropEndWhile (· == '0') (cs.dropWhile (· == '0'))) := by
  have trimmed : Text.dropEndWhile (· == '0') (cs.dropWhile (· == '0')) =
      List.rdropWhile (· == '0') (cs.dropWhile (· == '0')) := rfl
  rw [trimmed]
  have kept := List.rdropWhile_prefix (· == '0') (l := cs.dropWhile (· == '0'))
  have first := List.head_dropWhile_not (· == '0') nonzero
  have nonempty : List.rdropWhile (· == '0') (cs.dropWhile (· == '0')) ≠ [] := by
    intro gone
    have zero := List.rdropWhile_eq_nil_iff.1 gone _ (List.head_mem nonzero)
    rw [first] at zero
    cases zero
  refine ⟨fun c found => digits c (List.dropWhile_subset _ (kept.subset found)), nonempty, ?_, ?_⟩
  · intro zero
    rw [kept.head nonempty] at zero
    rw [zero] at first
    cases first
  · intro zero
    exact List.rdropWhile_last_not _ _ nonempty (beq_iff_eq.2 zero)

/-! ## Normal forms -/

/-- Zero, which has no sign, or a number with significant digits. -/
inductive IsNormal : Decimal → Prop where
  | zero : IsNormal .zero
  | nonzero (negative : Bool) {digits : List Char} (exponent : Int)
      (significant : Significant digits) : IsNormal ⟨negative, digits, exponent⟩

theorem scaledValue_eq_zero_iff {negative : Bool} {n : Nat} {exponent : Int} :
    scaledValue negative n exponent = 0 ↔ n = 0 := by
  have power : (10 : ℚ) ^ exponent ≠ 0 := zpow_ne_zero exponent (by norm_num)
  cases negative <;> simp [scaledValue, power]

/-- A factor of ten counts as one more in the exponent. -/
theorem scaledValue_mul_pow (negative : Bool) (n k : Nat) (exponent : Int) :
    scaledValue negative (n * 10 ^ k) exponent = scaledValue negative n (exponent + k) := by
  rw [scaledValue, scaledValue, zpow_add₀ (by norm_num), zpow_natCast]
  push_cast
  ring

theorem IsNormal.value_eq_zero_iff {d : Decimal} (normal : d.IsNormal) :
    d.value = 0 ↔ d.digits = ['0'] := by
  rw [value, scaledValue_eq_zero_iff]
  cases normal with
  | zero => exact iff_of_true rfl rfl
  | nonzero negative exponent significant =>
      exact iff_of_false significant.ne_zero significant.ne_singleton_zero

/-- The normal form of a numeral is exact. -/
theorem ofNumeral?_sound {n : Numeral} {d : Decimal}
    (digits : ∀ c ∈ n.whole ++ n.places, c.isDigit = true) (normalized : ofNumeral? n = some d) :
    d.IsNormal ∧ d.value = n.value := by
  unfold ofNumeral? at normalized
  dsimp only at normalized
  split at normalized
  · rename_i gone
    rw [← Option.some.inj normalized]
    have nothing : natOfDigits (n.whole ++ n.places) = 0 := by
      rw [← natOfDigits_dropWhile, List.isEmpty_iff.1 gone]
      rfl
    refine ⟨.zero, ?_⟩
    rw [Numeral.value, scaledValue_eq_zero_iff.2 nothing]
    exact scaledValue_eq_zero_iff.2 rfl
  · rename_i nonzero
    have significant := significant_of_trimmed digits fun gone =>
      nonzero (List.isEmpty_iff.2 gone)
    obtain ⟨shifted, shifts, normalized⟩ := Option.bind_eq_some_iff.1 normalized
    obtain ⟨scaled, scales, normalized⟩ := Option.bind_eq_some_iff.1 normalized
    rw [← Option.some.inj normalized]
    refine ⟨.nonzero _ _ significant, ?_⟩
    have shift := (IntRange.holding?_eq_some_iff.1 shifts).1
    have scale := (IntRange.holding?_eq_some_iff.1 scales).1
    rw [value, Numeral.value, ← natOfDigits_dropWhile (n.whole ++ n.places),
      natOfDigits_dropEndWhile (List.dropWhile _ _), scaledValue_mul_pow, shift, scale]

/-- A number that is no multiple of ten has the greatest exponent of all equal ones. -/
theorem exponent_le {n m : Nat} {e f : Int} (not_dvd : ¬ 10 ∣ n)
    (same : (n : ℚ) * 10 ^ e = m * 10 ^ f) : f ≤ e := by
  refine not_lt.1 fun less => not_dvd ?_
  obtain ⟨k, rfl⟩ : ∃ k : Nat, f = k + 1 + e := ⟨(f - e - 1).toNat, by omega⟩
  have power : (10 : ℚ) ^ e ≠ 0 := zpow_ne_zero e (by norm_num)
  rw [zpow_add₀ (by norm_num), ← mul_assoc] at same
  have reduced := mul_right_cancel₀ power same
  have equal : n = m * 10 ^ (k + 1) := by exact_mod_cast reduced
  exact ⟨m * 10 ^ k, by rw [equal]; ring⟩

theorem scaledValue_neg_iff {negative : Bool} {n : Nat} (nonzero : n ≠ 0) (exponent : Int) :
    scaledValue negative n exponent < 0 ↔ negative = true := by
  have magnitude : 0 < (n : ℚ) * 10 ^ exponent := by positivity
  cases negative with
  | false => simpa [scaledValue] using magnitude.le
  | true => simpa [scaledValue] using magnitude

/-- A sign, a number that is no multiple of ten and an exponent are determined by their value. -/
theorem scaledValue_inj {s t : Bool} {n m : Nat} {e f : Int} (first : ¬ 10 ∣ n) (second : ¬ 10 ∣ m)
    (same : scaledValue s n e = scaledValue t m f) : s = t ∧ n = m ∧ e = f := by
  have left_nonzero : n ≠ 0 := fun zero => first (zero ▸ Nat.dvd_zero 10)
  have right_nonzero : m ≠ 0 := fun zero => second (zero ▸ Nat.dvd_zero 10)
  have signs : s = t := by
    rw [Bool.eq_iff_iff, ← scaledValue_neg_iff left_nonzero e, same,
      scaledValue_neg_iff right_nonzero f]
  subst signs
  have sign : (if s then -1 else 1 : ℚ) ≠ 0 := by cases s <;> norm_num
  rw [scaledValue, scaledValue, mul_assoc, mul_assoc] at same
  have magnitudes := mul_left_cancel₀ sign same
  have exponents : e = f := le_antisymm (exponent_le second magnitudes.symm)
    (exponent_le first magnitudes)
  subst exponents
  have numbers := mul_right_cancel₀ (zpow_ne_zero e (by norm_num)) magnitudes
  exact ⟨rfl, by exact_mod_cast numbers, rfl⟩

/-- Two normal forms with one value are the same. -/
theorem IsNormal.eq_of_value {c d : Decimal} (first : c.IsNormal) (second : d.IsNormal)
    (same : c.value = d.value) : c = d := by
  cases first with
  | zero =>
      have zero := second.value_eq_zero_iff.1 (same.symm.trans (scaledValue_eq_zero_iff.2 rfl))
      cases second with
      | zero => rfl
      | nonzero negative exponent significant => exact absurd zero significant.ne_singleton_zero
  | nonzero negative exponent significant =>
      cases second with
      | zero =>
          have zero := scaledValue_eq_zero_iff.1 (same.trans (scaledValue_eq_zero_iff.2 rfl))
          exact absurd zero significant.ne_zero
      | nonzero negative exponent also_significant =>
          obtain ⟨rfl, numbers, rfl⟩ :=
            scaledValue_inj significant.not_dvd also_significant.not_dvd same
          rw [significant.eq_of_natOfDigits also_significant numbers]

end Decimal

/-! ## Literals -/

/-- The parts of a numeral are digits. -/
theorem Numeral.digits_ofText? {text : String} {n : Numeral}
    (read : Numeral.ofText? text = some n) : ∀ c ∈ n.whole ++ n.places, c.isDigit = true := by
  unfold Numeral.ofText? at read
  generalize Numeral.splitSign (Text.trimChars text.toList) = signed at read
  obtain ⟨exponent, _, read⟩ := Option.bind_eq_some_iff.1 read
  dsimp only at read
  split at read
  · cases read
  · rename_i accepted
    rw [← Option.some.inj read]
    simp only [Bool.or_eq_true, not_or, Bool.not_eq_true, Bool.not_eq_false',
      List.all_eq_true] at accepted
    exact accepted.2

namespace Decimal

/-- The normal form of a literal has the value of the numeral that is read. -/
theorem ofText?_sound {text : String} {d : Decimal} (read : ofText? text = some d) :
    ∃ n, Numeral.ofText? text = some n ∧ d.IsNormal ∧ d.value = n.value := by
  obtain ⟨n, parts, normalized⟩ := Option.bind_eq_some_iff.1 read
  exact ⟨n, parts, ofNumeral?_sound (Numeral.digits_ofText? parts) normalized⟩

/-- The exact value of a literal, if it has a normal form. -/
def exactValue? (text : String) : Option ℚ :=
  if (ofText? text).isSome then (Numeral.ofText? text).map Numeral.value else none

theorem exactValue?_eq (text : String) : exactValue? text = (ofText? text).map value := by
  unfold exactValue?
  cases read : ofText? text with
  | none => rfl
  | some d =>
      obtain ⟨n, parts, _, exact_value⟩ := ofText?_sound read
      rw [parts]
      exact congrArg some exact_value.symm

end Decimal
end TraceAudit.Sql
