/-!
# Binary floating-point numbers

The finite numbers of the format binary64, kept as sign, significand and exponent, so that their
arithmetic is exact arithmetic on natural numbers followed by one rounding to nearest, ties to
even. An operation whose rounded result is too large has no value.
-/

namespace TraceAudit

/-- The number `±significand · 2 ^ exponent`, the significand below `2 ^ 53` and the exponent
from -1074 to 971; below `2 ^ 52` only at the least exponent. -/
structure Binary64 where
  negative : Bool
  significand : Nat
  exponent : Int
  deriving DecidableEq, Repr

namespace Binary64

/-- The least exponent, that of zero and of the subnormal numbers. -/
def minExponent : Int := -1074

/-- The greatest exponent. -/
def maxExponent : Int := 971

/-- The least significand of the numbers that are not subnormal. -/
def leastNormal : Nat := 1 <<< 52

/-- Zero with a sign. -/
def zero (negative : Bool) : Binary64 := ⟨negative, 0, minExponent⟩

/-- The integer nearest to `num / den`, an even one on a tie. -/
def divideToEven (num den : Nat) : Nat :=
  let q := num / den
  let r := num % den
  if den < 2 * r || (2 * r == den && q % 2 == 1) then q + 1 else q

/-- The fraction `num / (den · 2 ^ e)` as numerator and denominator. -/
def unscale (num den : Nat) (e : Int) : Nat × Nat :=
  if e < 0 then (num <<< e.natAbs, den) else (num, den <<< e.toNat)

/-- The magnitude nearest to `num / den`. -/
def nearest (num den : Nat) : Option (Nat × Int) :=
  if num == 0 then some (0, minExponent)
  else
    let guess := max ((num.log2 : Int) - (den.log2 : Int) - 53) minExponent
    let low := unscale num den guess
    let e := if low.1 / low.2 < 2 * leastNormal then guess else guess + 1
    let exact := unscale num den e
    let q := divideToEven exact.1 exact.2
    let (q, e) := if q == 2 * leastNormal then (leastNormal, e + 1) else (q, e)
    if maxExponent < e then none else some (q, e)

/-- The magnitude nearest to a natural number. -/
def ofNat (n : Nat) : Option (Nat × Int) :=
  nearest n 1

/-- The product of two magnitudes. -/
def mul (x y : Nat × Int) : Option (Nat × Int) :=
  let (num, den) := unscale (x.1 * y.1) 1 (-(x.2 + y.2))
  nearest num den

/-- The quotient of two magnitudes, the second not zero. -/
def div (x y : Nat × Int) : Option (Nat × Int) :=
  let (num, den) := unscale x.1 y.1 (-(x.2 - y.2))
  nearest num den

/-- The magnitude nearest to `10 ^ n`. -/
def powerOfTen (n : Nat) : Option (Nat × Int) :=
  ofNat (Nat.pow 10 n)

end Binary64
end TraceAudit
