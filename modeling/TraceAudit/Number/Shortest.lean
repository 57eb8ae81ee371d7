import TraceAudit.Number.Binary64

/-!
# Shortest decimals

The decimal text of a binary64 number: the fewest digits that read back as the same number, and
of those the ones nearest to it.
-/

namespace TraceAudit.Binary64

/-- The numbers that round to a given one lie between two bounds, `low / unit` and `high / unit`,
the bounds themselves included when the significand is even. `value / unit` is the number. -/
structure Interval where
  low : Nat
  value : Nat
  high : Nat
  unit : Nat
  closed : Bool

/-- The numbers that round to the magnitude `m · 2 ^ e`. -/
def interval (m : Nat) (e : Int) : Interval :=
  let below := if m == leastNormal && minExponent < e then 1 else 2
  let (low, unit) := unscale (4 * m - below) 1 (2 - e)
  let (value, _) := unscale (4 * m) 1 (2 - e)
  let (high, _) := unscale (4 * m + 2) 1 (2 - e)
  ⟨low, value, high, unit, m % 2 == 0⟩

/-- Whether `digits · 10 ^ scale` lies in an interval. -/
def Interval.holds (i : Interval) (digits : Nat) (scale : Int) : Bool :=
  let x := if scale < 0 then digits * i.unit else digits * Nat.pow 10 scale.toNat * i.unit
  let by10 := if scale < 0 then Nat.pow 10 scale.natAbs else 1
  if i.closed then i.low * by10 ≤ x && x ≤ i.high * by10
  else i.low * by10 < x && x < i.high * by10

/-- The greatest `digits` with `digits · 10 ^ scale` at most the number, and whether the next one
is nearer to it. -/
def Interval.floor (i : Interval) (scale : Int) : Nat × Bool :=
  let num := if scale < 0 then i.value * Nat.pow 10 scale.natAbs else i.value
  let den := if scale < 0 then i.unit else i.unit * Nat.pow 10 scale.toNat
  (num / den, den < 2 * (num % den) || (2 * (num % den) == den && num / den % 2 == 1))

/-- The least `k` with the number below `10 ^ k`, searched downwards from a bound. -/
def Interval.magnitude (i : Interval) : Nat → Int → Int
  | 0, k => k
  | n + 1, k =>
      let below := if k - 1 < 0 then i.value * Nat.pow 10 (k - 1).natAbs < i.unit
        else i.value < Nat.pow 10 (k - 1).toNat * i.unit
      if below then i.magnitude n (k - 1) else k

/-- The nearest decimal of the first length, counted from `count`, that has one in the
interval. -/
def Interval.search (i : Interval) (magnitude : Int) : Nat → Nat → Nat × Int
  | 0, _ => (i.value, 0)
  | fuel + 1, count =>
      let scale := magnitude - count
      let (down, upNearer) := i.floor scale
      let downHolds := i.holds down scale
      let upHolds := i.holds (down + 1) scale
      if downHolds && !(upHolds && upNearer) then (down, scale)
      else if upHolds then (down + 1, scale)
      else i.search magnitude fuel (count + 1)

/-- The digits and the power of ten of the shortest decimal of a magnitude that is not zero. -/
def shortest (m : Nat) (e : Int) : Nat × Int :=
  let i := interval m e
  i.search (i.magnitude 700 310) 18 1

/-- How a decimal is written: the least and greatest exponent of positional notation. -/
structure DecimalFormat where
  positionalFrom : Int
  positionalTo : Int

/-- Digits `d₁d₂…`, standing for `d₁.d₂… · 10 ^ exponent`, as text: positional with at least one
place, or with an exponent that carries its sign. -/
def DecimalFormat.write (f : DecimalFormat) (digits : List Char) (exponent : Int) : List Char :=
  if f.positionalFrom ≤ exponent && exponent ≤ f.positionalTo then
    if exponent < 0 then
      '0' :: '.' :: (List.replicate (exponent.natAbs - 1) '0' ++ digits)
    else
      let whole := exponent.toNat + 1
      let places := digits.drop whole
      digits.take whole ++ List.replicate (whole - digits.length) '0' ++
        '.' :: (if places.isEmpty then ['0'] else places)
  else
    let places := digits.drop 1
    digits.take 1 ++ (if places.isEmpty then [] else '.' :: places) ++
      'e' :: (if exponent < 0 then '-' else '+') :: Nat.toDigits 10 exponent.natAbs

/-- Digits without the zeros at their end. -/
def stripZeros (digits : List Char) : List Char :=
  (digits.reverse.dropWhile (· == '0')).reverse

/-- The text of a number. -/
def text (f : DecimalFormat) (x : Binary64) : String :=
  let magnitude :=
    if x.significand == 0 then ['0', '.', '0']
    else
      let (n, scale) := shortest x.significand x.exponent
      let digits := Nat.toDigits 10 n
      f.write (stripZeros digits) (scale + digits.length - 1)
  String.ofList (if x.negative then '-' :: magnitude else magnitude)

end TraceAudit.Binary64
