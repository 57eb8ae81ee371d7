import TraceAudit.Text.Utf8

/-!
# Deliveries

A source of bytes, as the list of what it will do: deliver a chunk, interrupt, say that the input
has ended, or fail. `readLine` takes from a source the bytes up to the next line feed, however they
are cut into chunks.
-/

namespace TraceAudit

/-- What a source of bytes does next. -/
inductive Delivery where
  | bytes (chunk : Bytes)
  /-- The source was interrupted and can be asked again. -/
  | interrupt
  /-- The input ends here for now; the source may deliver more to who asks again. -/
  | pause
  | failure (reason : String)
  deriving DecidableEq, Repr

/-- What comes of asking for a line. -/
inductive LineRead where
  /-- A line with its line feed, if it has one. It is empty only at the end of the input. -/
  | line (bytes : Bytes)
  | failed (reason : String)
  deriving DecidableEq, Repr

namespace Delivery

/-- The byte that ends a line. -/
def lineFeed : UInt8 := 10

/-- One more than the number of bytes delivered. -/
def size : Delivery → Nat
  | .bytes chunk => chunk.length + 1
  | .interrupt => 1
  | .pause => 1
  | .failure _ => 1

/-- How much is left of a source. -/
def pending : List Delivery → Nat
  | [] => 0
  | d :: rest => d.size + pending rest

/-- The bytes of a chunk before the first line feed, after those given last first, and the bytes
that follow the line feed. -/
def cutLine (before : Bytes) : Bytes → Bytes × Option Bytes
  | [] => (before.reverse, none)
  | b :: rest => if b = lineFeed then (before.reverse, some rest) else cutLine (b :: before) rest

/-- The next line, begun with the bytes given, and the source after it. A failure loses what was
begun. -/
def readLine (begun : Bytes) : List Delivery → LineRead × List Delivery
  | [] => (.line begun, [])
  | .interrupt :: rest => readLine begun rest
  | .pause :: rest => (.line begun, rest)
  | .failure reason :: rest => (.failed reason, rest)
  | .bytes chunk :: rest =>
      match cutLine [] chunk with
      | (before, none) => readLine (begun ++ before) rest
      | (before, some after) => (.line (begun ++ before ++ [lineFeed]), .bytes after :: rest)

@[simp] theorem pending_nil : pending [] = 0 := rfl

@[simp] theorem pending_cons (d : Delivery) (rest : List Delivery) :
    pending (d :: rest) = d.size + pending rest := rfl

theorem length_cutLine (begun chunk before after : Bytes)
    (h : cutLine begun chunk = (before, some after)) : after.length < chunk.length := by
  induction chunk generalizing begun with
  | nil => simp [cutLine] at h
  | cons b rest ih =>
    unfold cutLine at h
    split at h
    · simp only [Prod.mk.injEq, Option.some.injEq] at h
      simp [h.2]
    · have := ih _ h
      simp only [List.length_cons]
      omega

/-- Asking for a line uses up some of a source that is not spent. -/
theorem pending_readLine (begun : Bytes) (source : List Delivery) :
    source = [] ∧ readLine begun source = (.line begun, []) ∨
      pending (readLine begun source).2 < pending source := by
  induction source generalizing begun with
  | nil => exact .inl ⟨rfl, rfl⟩
  | cons d rest ih =>
    right
    cases d with
    | interrupt =>
      rcases ih begun with ⟨rfl, h⟩ | h
      · simp [readLine, size]
      · simp only [readLine, pending_cons, size]; omega
    | pause => simp [readLine, size]
    | failure reason => simp [readLine, size]
    | bytes chunk =>
      unfold readLine
      split
      · rename_i before _
        rcases ih (begun ++ before) with ⟨rfl, h⟩ | h
        · simp [h, size]
        · simp only [pending_cons, size]; omega
      · rename_i before after heq
        have := length_cutLine _ _ _ _ heq
        simp only [pending_cons, size]; omega

end Delivery
end TraceAudit
