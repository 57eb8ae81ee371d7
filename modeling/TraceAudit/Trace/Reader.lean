import TraceAudit.Digest.Sha256
import TraceAudit.Trace.Delivery
import TraceAudit.Trace.Record

/-!
# Reading a trace

A reader takes lines from a source one at a time and keeps what it has to know at the end: how many
lines were not blank, and the bytes of all lines taken, from which the fingerprint is made. Blank
lines yield nothing. A failure of the source ends the reading for good.
-/

namespace TraceAudit

/-- What a line gives: a record, or why it holds none. -/
abbrev Item := Except LineError Record

/-- What is known of an input once it has been read. -/
structure InputDigest where
  sha256 : String
  nonBlankLines : Nat
  deriving DecidableEq, Repr

structure Reader where
  source : List Delivery
  /-- How many lines were taken. -/
  lines : Nat
  /-- How many of them were not blank. -/
  nonBlank : Nat
  /-- The lines taken, last first. -/
  taken : List Bytes
  /-- Why the source failed, if it did. -/
  failure : Option String
  deriving Repr

/-- What a line holds. -/
inductive LineContent where
  | blank
  | notUtf8
  | text (content : String)
  deriving DecidableEq, Repr

/-- The content of a line: its text without byte order marks at its start, and without blanks at
either end after that. -/
def LineContent.ofBytes (bytes : Bytes) : LineContent :=
  match Text.decodeUtf8? bytes with
  | none => .notUtf8
  | some s =>
      let content := Text.trimChars (s.toList.dropWhile (·.toNat == 0xFEFF))
      if content.isEmpty then .blank else .text (String.ofList content)

/-- What a line of that content gives; nothing if it is blank. -/
def LineContent.item? (line : Nat) : LineContent → Option Item
  | .blank => none
  | .notUtf8 => some (.error ⟨line, .notUtf8⟩)
  | .text content => some (Record.ofLine line content)

namespace Reader

/-- A reader at the start of a source. -/
def ofSource (source : List Delivery) : Reader :=
  ⟨source, 0, 0, [], none⟩

/-- The reader after a line, with the rest of its source and what the line gave. -/
def takeLine (r : Reader) (bytes : Bytes) (rest : List Delivery) (item : Option Item) : Reader where
  source := rest
  lines := r.lines + 1
  nonBlank := if item.isSome then r.nonBlank + 1 else r.nonBlank
  taken := bytes :: r.taken
  failure := r.failure

/-- The next item, if there is one, and the reader after it. -/
def next (r : Reader) : Option Item × Reader :=
  if r.failure.isSome then (none, r)
  else
    match _h : Delivery.readLine [] r.source with
    | (.failed reason, rest) => (none, { r with source := rest, failure := some reason })
    | (.line [], rest) => (none, { r with source := rest })
    | (.line (b :: bs), rest) =>
        let item := (LineContent.ofBytes (b :: bs)).item? (r.lines + 1)
        let after := r.takeLine (b :: bs) rest item
        match item with
        | some i => (some i, after)
        | none => next after
  termination_by Delivery.pending r.source
  decreasing_by
    rcases Delivery.pending_readLine [] r.source with ⟨_, spent⟩ | less
    · simp [spent] at _h
    · simp only [_h] at less
      exact less

/-- An item uses up some of the source. -/
theorem pending_next (r : Reader) (i : Item) (h : r.next.1 = some i) :
    Delivery.pending r.next.2.source < Delivery.pending r.source := by
  fun_induction next r with
  | case1 => simp at h
  | case2 => simp at h
  | case3 => simp at h
  | case4 r _ b bs rest h' item after i' _ =>
    rcases Delivery.pending_readLine [] r.source with ⟨_, h''⟩ | h''
    · simp [h''] at h'
    · simp only [h'] at h''
      exact h''
  | case5 r _ b bs rest h' item after _ ih =>
    have hlt : Delivery.pending after.source < Delivery.pending r.source := by
      rcases Delivery.pending_readLine [] r.source with ⟨_, h''⟩ | h''
      · simp [h''] at h'
      · simp only [h'] at h''
        exact h''
    exact Nat.lt_trans (ih h) hlt

/-- At most `count` items, and the reader after them. -/
def take (r : Reader) : Nat → List Item × Reader
  | 0 => ([], r)
  | count + 1 =>
      match r.next with
      | (none, after) => ([], after)
      | (some i, after) =>
          let (items, last) := after.take count
          (i :: items, last)

/-- All items up to the first time that there is none, last first after those given, and the reader
after them. -/
def drain (r : Reader) (items : List Item) : List Item × Reader :=
  match _h : r.next with
  | (none, after) => (items, after)
  | (some i, after) => drain after (i :: items)
  termination_by Delivery.pending r.source
  decreasing_by
    have := pending_next r i (by rw [_h])
    simpa [_h] using this

/-- All items up to the first time that there is none, and the reader after them. -/
def items (r : Reader) : List Item × Reader :=
  let (items, last) := r.drain []
  (items.reverse, last)

/-- Takes what is left, and tells what is known of the input, or why it could not be read. -/
def finish (r : Reader) : Except String InputDigest :=
  let last := (r.drain []).2
  match last.failure with
  | some reason => .error reason
  | none => .ok ⟨Sha256.hexDigest last.taken.reverse.flatten, last.nonBlank⟩

end Reader
end TraceAudit
