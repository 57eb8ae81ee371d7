import TraceAudit.Trace.Delivery

/-!
# Lines of a trace

The lines of a sequence of bytes, each with the line feed that ends it, and what asking a source
for a line gives when the source delivers those bytes: the same line however the bytes are cut into
chunks and wherever the source is interrupted. Of any source, the lines are those that it gives up
to where it says that its input has ended, unless it fails before.
-/

namespace TraceAudit

open Delivery (lineFeed cutLine readLine)

/-- A source that delivers exactly these bytes, in chunks of any size and with interruptions. -/
inductive Delivers : List Delivery → Bytes → Prop where
  | done : Delivers [] []
  | chunk {source : List Delivery} {input : Bytes} (bytes : Bytes)
      (later : Delivers source input) : Delivers (.bytes bytes :: source) (bytes ++ input)
  | interrupt {source : List Delivery} {input : Bytes}
      (later : Delivers source input) : Delivers (.interrupt :: source) input

/-- A source that delivers all bytes at once. -/
theorem delivers_whole (input : Bytes) : Delivers [.bytes input] input := by
  have delivered := Delivers.chunk input .done
  rwa [List.append_nil] at delivered

namespace Trace

/-- The lines of an input, each with its line feed; only the last one may lack it. -/
def lines : Bytes → List Bytes
  | [] => []
  | b :: rest =>
      if b = lineFeed then [b] :: lines rest
      else
        match lines rest with
        | [] => [[b]]
        | line :: others => (b :: line) :: others

/-- Nothing of the input is lost in its lines. -/
theorem flatten_lines (input : Bytes) : (lines input).flatten = input := by
  induction input with
  | nil => rfl
  | cons b rest ih =>
      unfold lines
      split
      · simp [ih]
      · cases cut : lines rest with
        | nil =>
            rw [cut] at ih
            simp [← ih]
        | cons line others =>
            rw [cut] at ih
            simp [← ih]

/-- Bytes without a line feed are one line. -/
theorem lines_unended {line : Bytes} (unended : lineFeed ∉ line) (nonempty : line ≠ []) :
    lines line = [line] := by
  induction line with
  | nil => exact absurd rfl nonempty
  | cons b rest ih =>
      obtain ⟨other, unended⟩ := List.ne_and_not_mem_of_not_mem_cons unended
      unfold lines
      rw [if_neg other.symm]
      cases rest with
      | nil => rfl
      | cons c more => rw [ih unended (List.cons_ne_nil c more)]

/-- The bytes up to the first line feed are the first line. -/
theorem lines_ended {line : Bytes} (unended : lineFeed ∉ line) (rest : Bytes) :
    lines (line ++ lineFeed :: rest) = (line ++ [lineFeed]) :: lines rest := by
  induction line with
  | nil =>
      rw [List.nil_append, lines, if_pos rfl]
      rfl
  | cons b more ih =>
      obtain ⟨other, unended⟩ := List.ne_and_not_mem_of_not_mem_cons unended
      rw [List.cons_append, lines, if_neg other.symm, ih unended]
      rfl

/-- An input is empty, is one line without a line feed, or begins with a line that has one. -/
theorem lines_cases (input : Bytes) :
    input = [] ∨ (input ≠ [] ∧ lineFeed ∉ input) ∨
      ∃ line rest, input = line ++ lineFeed :: rest ∧ lineFeed ∉ line := by
  by_cases ended : lineFeed ∈ input
  · exact .inr (.inr (List.eq_append_cons_of_mem ended))
  · by_cases empty : input = []
    · exact .inl empty
    · exact .inr (.inl ⟨empty, ended⟩)

end Trace

namespace Delivery

/-! ## Asking for a line -/

/-- A chunk without a line feed is not cut. -/
theorem cutLine_unended {chunk : Bytes} (unended : lineFeed ∉ chunk) (before : Bytes) :
    cutLine before chunk = (before.reverse ++ chunk, none) := by
  induction chunk generalizing before with
  | nil => simp [cutLine]
  | cons b rest ih =>
      obtain ⟨other, unended⟩ := List.ne_and_not_mem_of_not_mem_cons unended
      rw [cutLine, if_neg other.symm, ih unended]
      simp

/-- A chunk is cut at its first line feed. -/
theorem cutLine_ended {line : Bytes} (unended : lineFeed ∉ line) (before after : Bytes) :
    cutLine before (line ++ lineFeed :: after) = (before.reverse ++ line, some after) := by
  induction line generalizing before with
  | nil => simp [cutLine]
  | cons b rest ih =>
      obtain ⟨other, unended⟩ := List.ne_and_not_mem_of_not_mem_cons unended
      rw [List.cons_append, cutLine, if_neg other.symm, ih unended]
      simp

/-- While no line feed comes, all that is delivered is kept, and the reading goes on with what the
source does after that. -/
theorem readLine_unended {source : List Delivery} {input : Bytes}
    (delivered : Delivers source input) (unended : lineFeed ∉ input)
    (begun : Bytes) (tail : List Delivery) :
    readLine begun (source ++ tail) = readLine (begun ++ input) tail := by
  induction delivered generalizing begun with
  | done => simp
  | interrupt later ih => exact ih unended begun
  | chunk bytes later ih =>
      rw [List.mem_append, not_or] at unended
      rw [List.cons_append, readLine, cutLine_unended unended.1]
      simp [ih unended.2]

/-- A line with its line feed is read as it is, and the source goes on to deliver what follows. -/
theorem readLine_ended {source : List Delivery} {input line rest : Bytes}
    (delivered : Delivers source input) (split : input = line ++ lineFeed :: rest)
    (unended : lineFeed ∉ line) (begun : Bytes) (tail : List Delivery) :
    ∃ after, Delivers after rest ∧
      readLine begun (source ++ tail) =
        (.line (begun ++ line ++ [lineFeed]), after ++ tail) := by
  induction delivered generalizing begun line with
  | done => simp at split
  | interrupt later ih => exact ih split unended begun
  | @chunk source input bytes later ih =>
      rcases List.append_eq_append_iff.1 split with ⟨line', rfl, split'⟩ | ⟨beyond, rfl, split'⟩
      · rw [List.mem_append, not_or] at unended
        obtain ⟨after, delivered, read⟩ := ih split' unended.2 (begun ++ bytes)
        refine ⟨after, delivered, ?_⟩
        rw [List.cons_append, readLine, cutLine_unended unended.1]
        simpa using read
      · cases beyond with
        | nil =>
            -- The chunk ends right before the line feed, which the next one brings.
            have next : input = [] ++ lineFeed :: rest := split'.symm
            obtain ⟨after, delivered, read⟩ := ih next List.not_mem_nil (begun ++ line)
            refine ⟨after, delivered, ?_⟩
            rw [List.append_nil, List.cons_append, readLine, cutLine_unended unended]
            simpa using read
        | cons b beyond =>
            obtain ⟨rfl, rfl⟩ := List.cons.inj split'
            refine ⟨.bytes beyond :: source, .chunk beyond later, ?_⟩
            rw [List.cons_append, readLine, cutLine_ended unended]
            simp

/-! ## Sources to their ends -/

/-- Asked for one line after the other, a source gives these lines and then says that its input has
ended. What it does after that for who asks again is left of it. -/
inductive Ends : List Delivery → List Bytes → List Delivery → Prop where
  | here {source rest : List Delivery} (read : readLine [] source = (.line [], rest)) :
      Ends source [] rest
  | line {source next rest : List Delivery} {line : Bytes} {later : List Bytes}
      (read : readLine [] source = (.line line, next)) (nonempty : line ≠ [])
      (ends : Ends next later rest) : Ends source (line :: later) rest

/-- Asked for one line after the other, a source fails before it says that its input has ended. -/
inductive Fails : List Delivery → String → Prop where
  | here {source rest : List Delivery} {reason : String}
      (read : readLine [] source = (.failed reason, rest)) : Fails source reason
  | line {source next : List Delivery} {line : Bytes} {reason : String}
      (read : readLine [] source = (.line line, next)) (nonempty : line ≠ [])
      (fails : Fails next reason) : Fails source reason

/-- Every source comes to an end or fails. -/
theorem ends_or_fails (source : List Delivery) :
    (∃ lines rest, Ends source lines rest) ∨ ∃ reason, Fails source reason := by
  cases read : readLine [] source with
  | mk result next =>
      cases result with
      | failed reason => exact .inr ⟨reason, .here read⟩
      | line line =>
          by_cases empty : line = []
          · exact .inl ⟨[], next, .here (empty ▸ read)⟩
          · have less : pending next < pending source := by
              rcases pending_readLine [] source with ⟨_, ended⟩ | less
              · rw [read] at ended
                cases ended
                exact absurd rfl empty
              · rwa [read] at less
            rcases ends_or_fails next with ⟨lines, rest, ends⟩ | ⟨reason, fails⟩
            · exact .inl ⟨line :: lines, rest, .line read empty ends⟩
            · exact .inr ⟨reason, .line read empty fails⟩
termination_by pending source

end Delivery

/-- A source that delivers an input gives the lines of the input, and then nothing more. -/
theorem Delivers.ends {source : List Delivery} {input : Bytes} (delivered : Delivers source input) :
    Delivery.Ends source (Trace.lines input) [] := by
  rcases Trace.lines_cases input with rfl | ⟨nonempty, unended⟩ | ⟨line, rest, rfl, unended⟩
  · have read := Delivery.readLine_unended delivered List.not_mem_nil [] []
    rw [List.append_nil] at read
    exact .here read
  · have read := Delivery.readLine_unended delivered unended [] []
    rw [List.append_nil] at read
    rw [Trace.lines_unended unended nonempty]
    exact .line read nonempty (.here rfl)
  · obtain ⟨after, onward, read⟩ := Delivery.readLine_ended delivered rfl unended [] []
    rw [List.append_nil, List.append_nil] at read
    rw [Trace.lines_ended unended]
    exact .line read (by simp) onward.ends
termination_by input.length
decreasing_by simp_all; omega

/-- A source that fails after it has delivered an input fails before it has ended. -/
theorem Delivers.fails {source : List Delivery} {input : Bytes} (delivered : Delivers source input)
    (reason : String) (tail : List Delivery) :
    Delivery.Fails (source ++ .failure reason :: tail) reason := by
  by_cases ended : lineFeed ∈ input
  · obtain ⟨line, rest, rfl, unended⟩ := List.eq_append_cons_of_mem ended
    obtain ⟨after, onward, read⟩ :=
      Delivery.readLine_ended delivered rfl unended [] (.failure reason :: tail)
    exact .line read (by simp) (onward.fails reason tail)
  · exact .here (Delivery.readLine_unended delivered ended [] (.failure reason :: tail))
termination_by input.length
decreasing_by simp_all; omega

end TraceAudit
