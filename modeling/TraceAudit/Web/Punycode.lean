/-!
# Punycode

The writing of any text in ASCII: the ASCII characters of the text come first, and after a hyphen
the others follow in the order of their code points, each as the number of steps from the one
before. The numbers have digits to base thirty-six, with thresholds that follow the sizes met.
-/

namespace TraceAudit.Punycode

/-- The digit of a number below thirty-six. -/
def digit (n : Nat) : Char :=
  if n < 26 then Char.ofNat (97 + n) else Char.ofNat (22 + n)

/-- The number of a digit. -/
def digitValue? (c : Char) : Option Nat :=
  if c.isLower then some (c.toNat - 97)
  else if c.isUpper then some (c.toNat - 65)
  else if c.isDigit then some (c.toNat - 22)
  else none

/-- The threshold at a position, the positions being thirty-six, seventy-two and so on. -/
def threshold (position bias : Nat) : Nat :=
  if position ≤ bias then 1 else if bias + 26 ≤ position then 26 else position - bias

theorem threshold_bounds (position bias : Nat) :
    1 ≤ threshold position bias ∧ threshold position bias ≤ 26 := by
  unfold threshold
  split
  · omega
  · split <;> omega

/-- Cuts a number down until it is small, counting in steps of thirty-six. -/
def cutDown (n count : Nat) : Nat × Nat :=
  if 455 < n then cutDown (n / 35) (count + 36) else (n, count)
  termination_by n
  decreasing_by exact Nat.div_lt_self (by omega) (by omega)

/-- The bias after a number, with so many characters done. -/
def adapted (n done : Nat) (isFirst : Bool) : Nat :=
  let scaled := if isFirst then n / 700 else n / 2
  let (rest, count) := cutDown (scaled + scaled / done) 0
  count + 36 * rest / (rest + 38)

/-- The digits of a number. -/
def digits (bias position n : Nat) : List Char :=
  let t := threshold position bias
  if n < t then [digit n]
  else digit (t + (n - t) % (36 - t)) :: digits bias (position + 36) ((n - t) / (36 - t))
  termination_by n
  decreasing_by
    have := threshold_bounds position bias
    exact Nat.lt_of_le_of_lt (Nat.div_le_self _ _) (by omega)

/-- Where the writing of a text stands. -/
structure Writing where
  /-- The digits written, number by number, last first. -/
  written : List (List Char)
  /-- The steps since the last number. -/
  steps : Nat
  bias : Nat
  /-- How many characters are done. -/
  done : Nat

/-- Passes over one character of the text on the way through the code point `n`. -/
def Writing.pass (basic n : Nat) (w : Writing) (c : Char) : Writing :=
  if c.toNat < n then { w with steps := w.steps + 1 }
  else if c.toNat = n then
    { written := digits w.bias 36 w.steps :: w.written
      steps := 0
      bias := adapted w.steps (w.done + 1) (w.done == basic)
      done := w.done + 1 }
  else w

/-- Goes through the code points above ASCII that the text holds, from `next` on. -/
def Writing.run (text : List Char) (basic : Nat) : List Nat → Nat → Writing → Writing
  | [], _, w => w
  | n :: rest, next, w =>
      let w := { w with steps := w.steps + (n - next) * (w.done + 1) }
      let w := text.foldl (Writing.pass basic n) w
      Writing.run text basic rest (n + 1) { w with steps := w.steps + 1 }

/-- A number put in its place among ascending ones, unless it is there. -/
def insertOnce (n : Nat) : List Nat → List Nat
  | [] => [n]
  | m :: rest =>
      if n < m then n :: m :: rest
      else if n = m then m :: rest
      else m :: insertOnce n rest

/-- The writing of a text. -/
def encode (text : List Char) : List Char :=
  let basic := text.filter (·.toNat < 128)
  let others := (text.filter (128 ≤ ·.toNat)).foldr (fun c ns => insertOnce c.toNat ns) []
  let w := Writing.run text basic.length others 128 ⟨[], 0, 72, basic.length⟩
  basic ++ (if basic.isEmpty then [] else ['-']) ++ w.written.reverse.flatten

/-- The next number of a writing, and what follows it. -/
def number? (bias position weight sum : Nat) : List Char → Option (Nat × List Char)
  | [] => none
  | c :: rest => do
      let d ← digitValue? c
      let sum := sum + d * weight
      let t := threshold position bias
      if d < t then return (sum, rest)
      else number? bias (position + 36) (weight * (36 - t)) sum rest

theorem length_number? (bias position weight sum : Nat) (cs : List Char) (r : Nat × List Char)
    (h : number? bias position weight sum cs = some r) : r.2.length < cs.length := by
  induction cs generalizing position weight sum with
  | nil => simp [number?] at h
  | cons c rest ih =>
    unfold number? at h
    cases hd : digitValue? c with
    | none => simp [hd] at h
    | some d =>
      simp only [hd, Option.bind_eq_bind, Option.bind_some] at h
      split at h
      · simp only [pure, Option.some.injEq] at h
        simp [← h]
      · have := ih _ _ _ h
        simp only [List.length_cons]
        omega

/-- The character of a code point. -/
def char? (n : Nat) : Option Char :=
  if h : n.isValidChar then some (Char.ofNatAux n h) else none

/-- Puts the characters of a writing into the text done so far, of `done` characters; `n` and
`place` say where the last one went. -/
def insertAll (text : List Char) (done n place bias : Nat) (isFirst : Bool) (cs : List Char) :
    Option (List Char) :=
  match cs with
  | [] => some text
  | c :: rest =>
      match _h : number? bias 36 1 0 (c :: rest) with
      | none => none
      | some (steps, after) =>
          let place := place + steps
          let n := n + place / (done + 1)
          let place := place % (done + 1)
          match char? n with
          | none => none
          | some new =>
              insertAll (text.take place ++ new :: text.drop place) (done + 1) n (place + 1)
                (adapted steps (done + 1) isFirst) false after
  termination_by cs.length
  decreasing_by
    have := length_number? _ _ _ _ _ _ _h
    simpa using this

/-- The text of a writing; none if the writing is not one. -/
def decode? (writing : List Char) : Option (List Char) :=
  if writing.all (·.toNat < 128) then
    let tail := writing.reverse.takeWhile (· != '-')
    let basic := (writing.reverse.drop (tail.length + 1)).reverse
    let rest := if basic.isEmpty then writing else tail.reverse
    insertAll basic basic.length 128 0 72 true rest
  else none

end TraceAudit.Punycode
