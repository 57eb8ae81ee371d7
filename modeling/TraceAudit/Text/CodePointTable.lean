import TraceAudit.Text.Cut

/-!
# Tables of code points

A table written as rows of entries with blanks between them. An entry is a code point or a run of
them, all in hexadecimal, with a value after a colon if the table gives one: `41`, `41-5A:61`, or
`100-12E/2:101` for every second code point of a run.
-/

namespace TraceAudit.Text

/-- Every `step`-th code point from `first` to `last`, and what the table says of `first`. -/
structure Run where
  first : Nat
  last : Nat
  step : Nat
  value : List Nat
  deriving Repr

namespace Run

/-- The number that hexadecimal digits with capital letters stand for. -/
def hexNumber (digits : List Char) : Nat :=
  digits.foldl (fun n c => 16 * n + (c.toNat - if c.isDigit then 48 else 55)) 0

/-- The run that an entry writes. -/
def ofEntry (entry : List Char) : Run :=
  let (codes, value) := cutAt (· == ':') entry
  let (range, step) := cutAt (· == '/') codes
  let (first, last) := cutAt (· == '-') range
  { first := hexNumber first
    last := hexNumber (last.getD first)
    step := (step.map hexNumber).getD 1
    value := (value.map fun v => (pieces (· == '.') v).map hexNumber).getD [] }

/-- The runs that rows write. -/
def ofRows (rows : List String) : List Run :=
  rows.flatMap fun row => (pieces (· == ' ') row.toList).map ofEntry

/-- Whether a run holds a code point. -/
def holds (r : Run) (n : Nat) : Bool :=
  r.first ≤ n && n ≤ r.last && (n - r.first) % r.step == 0

/-- What a run says of one of its code points: a single value grows with the code point. -/
def valueAt (r : Run) (n : Nat) : List Nat :=
  match r.value with
  | [v] => [v + (n - r.first)]
  | value => value

end Run

/-- Whether a table holds a code point. -/
def tableHolds (table : List Run) (n : Nat) : Bool :=
  table.any (·.holds n)

/-- The run of a table that holds a code point. -/
def findRun? (table : List Run) (n : Nat) : Option Run :=
  table.find? (·.holds n)

end TraceAudit.Text
