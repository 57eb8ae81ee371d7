import Mathlib.Data.List.TakeWhile
import TraceAudit.Proofs.Web.Hosts

/-!
# Paths that a URL keeps

A path is not always sent as it is written: blanks at its end and line breaks are left out, a query
is cut off, characters are encoded, backslashes become slashes, and segments of dots are followed.
All that is sent is made of characters that are kept, and each segment of dots makes what is sent
shorter. So what is sent begins with the path that was written exactly if nothing of this happens
to it.
-/

namespace TraceAudit

namespace Text

theorem dropEndWhile_append_cons {p : Char → Bool} (front : List Char) {c : Char}
    (kept : p c = false) (rest : List Char) :
    dropEndWhile p (front ++ c :: rest) = front ++ c :: dropEndWhile p rest := by
  have last (back : List Char) :
      (back ++ c :: front.reverse).dropWhile p = back.dropWhile p ++ c :: front.reverse := by
    induction back with
    | nil => rw [List.nil_append, List.dropWhile_cons_of_neg (by simp [kept])]; rfl
    | cons d back ih =>
        by_cases dropped : p d = true
        · rw [List.cons_append, List.dropWhile_cons_of_pos dropped, ih,
            List.dropWhile_cons_of_pos dropped]
        · rw [List.cons_append, List.dropWhile_cons_of_neg dropped,
            List.dropWhile_cons_of_neg dropped, List.cons_append]
  have reversed : (front ++ c :: rest).reverse = rest.reverse ++ c :: front.reverse := by simp
  rw [dropEndWhile, reversed, last]
  simp [dropEndWhile]

theorem dropEndWhile_of_kept {p : Char → Bool} {cs : List Char} (kept : ∀ c ∈ cs, p c = false) :
    dropEndWhile p cs = cs := by
  rcases List.eq_nil_or_concat cs with rfl | ⟨front, last, rfl⟩
  · rfl
  · have here := kept last (by simp)
    rw [List.concat_eq_append, dropEndWhile_append_cons front here]
    rfl

theorem pieces_congr {p q : Char → Bool} {cs : List Char} (same : ∀ c ∈ cs, p c = q c) :
    pieces p cs = pieces q cs := by
  induction cs with
  | nil => rfl
  | cons c rest ih =>
      rw [pieces, pieces, same c List.mem_cons_self,
        ih fun d found => same d (List.mem_cons_of_mem c found)]

end Text

namespace Web

/-- A path as far as it is read: without blanks and controls at its end and without line breaks. -/
def cleanEnd (path : List Char) : List Char :=
  (Text.dropEndWhile (·.toNat ≤ 32) (Text.dropEndWhile Text.isBlank path)).filter fun c =>
    !(c == '\t' || c == '\n' || c == '\r')

/-- The path that is sent for a path at the end of a URL of the web. -/
def sentPath (path : List Char) : List Char :=
  pathOf .web (cleanEnd path)

/-- A character that is sent as it is. -/
def IsKept (c : Char) : Prop :=
  c.toNat < 128 ∧ isEncodedInPath c = false ∧ c ≠ '\\'

instance (c : Char) : Decidable (IsKept c) :=
  inferInstanceAs (Decidable (_ ∧ _))

/-- A segment that is followed: one dot or two. -/
def IsDots (segment : List Char) : Prop :=
  plainDots segment = ['.'] ∨ plainDots segment = ['.', '.']

instance (segment : List Char) : Decidable (IsDots segment) :=
  inferInstanceAs (Decidable (_ ∨ _))

/-- A path that is sent as it is. -/
structure IsPlainPath (path : List Char) : Prop where
  kept : ∀ c ∈ path, IsKept c
  dots : ∀ segment ∈ Text.pieces (· == '/') path, ¬IsDots segment

instance (path : List Char) : Decidable (IsPlainPath path) :=
  decidable_of_iff ((path.all fun c => IsKept c) ∧
      (Text.pieces (· == '/') path).all fun segment => ¬IsDots segment)
    ⟨fun ⟨kept, dots⟩ => ⟨by simpa using kept, by simpa using dots⟩,
      fun plain => ⟨by simpa using plain.kept, by simpa using plain.dots⟩⟩

/-! ## Characters -/

theorem IsKept.isVisible {c : Char} (kept : IsKept c) : Text.IsVisible c :=
  Text.ascii_induction (motive := fun c => IsKept c → Text.IsVisible c) (by decide) kept.1 kept

theorem cleanEnd_of_kept {path : List Char} (kept : ∀ c ∈ path, IsKept c) :
    cleanEnd path = path := by
  have visible (c : Char) (found : c ∈ path) := (kept c found).isVisible
  have shown : ∀ c ∈ path, decide (c.toNat ≤ 32) = false := fun c found =>
    decide_eq_false (Nat.not_le.2 (visible c found).1)
  rw [cleanEnd, Text.dropEndWhile_of_kept fun c found => (visible c found).isBlank,
    Text.dropEndWhile_of_kept shown, List.filter_eq_self]
  intro c found
  exact Text.ascii_induction
    (motive := fun c => IsKept c → (!(c == '\t' || c == '\n' || c == '\r')) = true) (by decide)
    (kept c found).1 (kept c found)

/-- What is encoded for a path is kept. -/
theorem isKept_of_mem_percentEncode {cs : List Char} (straight : ∀ c ∈ cs, c ≠ '\\') :
    ∀ c ∈ percentEncode isEncodedInPath cs, IsKept c := by
  intro c found
  obtain ⟨d, there, within⟩ := List.mem_flatMap.1 found
  split at within
  · obtain ⟨b, _, within⟩ := List.mem_flatMap.1 within
    have digits : ∀ n < 16, IsKept (hexDigit n) := by decide
    have bound := b.toNat_lt
    simp only [percentByte, List.mem_cons, List.not_mem_nil, or_false] at within
    rcases within with rfl | rfl | rfl
    · decide
    · exact digits _ (by omega)
    · exact digits _ (by omega)
  · rename_i plain
    rw [List.mem_singleton.1 within]
    simp only [Bool.or_eq_true, decide_eq_true_eq, not_or, Nat.not_le, Bool.not_eq_true] at plain
    exact ⟨plain.1, plain.2, straight d there⟩

theorem percentEncode_of_kept {cs : List Char} (kept : ∀ c ∈ cs, IsKept c) :
    percentEncode isEncodedInPath cs = cs := by
  have one : ∀ c ∈ cs, (if (decide (128 ≤ c.toNat) || isEncodedInPath c) = true then
      (Text.encodeUtf8 (String.singleton c)).flatMap percentByte else [c]) = [c] := by
    intro c found
    obtain ⟨ascii, plain, _⟩ := kept c found
    have small : ¬128 ≤ c.toNat := by omega
    simp [small, plain]
  rw [percentEncode, List.flatMap_def, List.map_congr_left one, ← List.flatMap_def]
  exact List.flatMap_singleton' cs

/-! ## Segments of dots -/

/-- How long segments are with a slash after each. -/
def weight (segments : List (List Char)) : Nat :=
  segments.flatten.length + segments.length

theorem weight_cons (segment : List Char) (rest : List (List Char)) :
    weight (segment :: rest) = segment.length + 1 + weight rest := by
  rw [weight, weight, List.flatten_cons, List.length_append, List.length_cons]
  omega

theorem weight_reverse (segments : List (List Char)) :
    weight segments.reverse = weight segments := by
  rw [weight, weight, (List.reverse_perm segments).flatten.length_eq, List.length_reverse]

theorem length_joined {segments : List (List Char)} (some_segment : segments ≠ []) :
    (Text.joined '/' segments).length + 1 = weight segments := by
  induction segments with
  | nil => exact absurd rfl some_segment
  | cons first rest ih =>
      cases rest with
      | nil => simp [weight]
      | cons second others =>
          have later := ih (List.cons_ne_nil second others)
          rw [Text.joined_cons_cons, weight_cons, ← later, List.length_append, List.length_cons]
          omega

theorem weight_parent_le (done : List (List Char)) : weight (parent done) ≤ weight done := by
  cases done with
  | nil => exact Nat.le_refl _
  | cons last rest =>
      rw [parent]
      split
      · exact Nat.le_refl _
      · rw [weight_cons]
        omega

/-- Segments of dots are not empty. -/
theorem length_pos_of_isDots {segment : List Char} (dots : IsDots segment) :
    0 < segment.length := by
  refine List.length_pos_iff.2 ?_
  rintro rfl
  exact absurd dots (by decide)

theorem parent_subset (done : List (List Char)) : parent done ⊆ done := by
  cases done with
  | nil => exact List.Subset.refl _
  | cons last rest =>
      rw [parent]
      split
      · exact List.Subset.refl _
      · exact List.subset_cons_self last rest

/-- A segment of dots takes segments away and leaves at most an empty one. -/
theorem follow_cons_of_isDots {segment : List Char} (dots : IsDots segment)
    (done rest : List (List Char)) :
    ∃ left, follow done (segment :: rest) = follow left rest ∧ weight left ≤ weight done + 1 ∧
      ∀ other ∈ left, other = [] ∨ other ∈ done := by
  have kept {some_left : List (List Char)} (within : some_left ⊆ done)
      (light : weight some_left ≤ weight done) :
      weight (if rest.isEmpty then [] :: some_left else some_left) ≤ weight done + 1 ∧
        ∀ other ∈ if rest.isEmpty then [] :: some_left else some_left,
          other = [] ∨ other ∈ done := by
    split
    · refine ⟨?_, fun other listed => ?_⟩
      · rw [weight_cons, List.length_nil]
        omega
      · exact (List.mem_cons.1 listed).imp_right (within ·)
    · exact ⟨Nat.le_succ_of_le light, fun other listed => .inr (within listed)⟩
  by_cases two : plainDots segment = ['.', '.']
  · refine ⟨_, ?_, kept (parent_subset done) (weight_parent_le done)⟩
    rw [follow, if_pos two]
  · have one := dots.resolve_right two
    refine ⟨_, ?_, kept (List.Subset.refl done) (Nat.le_refl _)⟩
    rw [follow, if_neg two, if_pos one]

theorem follow_cons_of_not_isDots {segment : List Char} (plain : ¬IsDots segment)
    (done rest : List (List Char)) :
    follow done (segment :: rest) = follow (segment :: done) rest := by
  obtain ⟨one, two⟩ := not_or.1 plain
  rw [follow, if_neg two, if_neg one]

/-- Each segment of dots makes what is left shorter. -/
theorem weight_follow_le (done segments : List (List Char)) :
    weight (follow done segments) + segments.countP (IsDots ·) ≤
      weight done + weight segments := by
  induction segments generalizing done with
  | nil =>
      rw [follow, weight_reverse]
      exact Nat.le_add_right _ _
  | cons segment rest ih =>
      rw [weight_cons]
      by_cases dots : IsDots segment
      · obtain ⟨left, followed, light, _⟩ := follow_cons_of_isDots dots done rest
        have positive := length_pos_of_isDots dots
        have later := ih left
        rw [followed, List.countP_cons_of_pos (by simpa using dots)]
        omega
      · have later := ih (segment :: done)
        rw [follow_cons_of_not_isDots dots, List.countP_cons_of_neg (by simpa using dots)]
        rw [weight_cons] at later
        omega

/-- Segments without dots are left as they are. -/
theorem follow_of_not_isDots {segments : List (List Char)}
    (plain : ∀ segment ∈ segments, ¬IsDots segment) (done : List (List Char)) :
    follow done segments = done.reverse ++ segments := by
  induction segments generalizing done with
  | nil => simp [follow]
  | cons segment rest ih =>
      rw [follow_cons_of_not_isDots (plain segment List.mem_cons_self),
        ih fun other listed => plain other (List.mem_cons_of_mem segment listed)]
      simp

/-- What is left was there, or is the empty segment that dots at the end leave. -/
theorem of_mem_follow {motive : List Char → Prop} (empty : motive [])
    {done segments : List (List Char)} (before : ∀ segment ∈ done, motive segment)
    (each : ∀ segment ∈ segments, motive segment) :
    ∀ segment ∈ follow done segments, motive segment := by
  induction segments generalizing done with
  | nil => exact fun segment listed => before segment (List.mem_reverse.1 listed)
  | cons segment rest ih =>
      have later := each segment List.mem_cons_self
      by_cases dots : IsDots segment
      · obtain ⟨left, followed, _, from_done⟩ := follow_cons_of_isDots dots done rest
        rw [followed]
        refine ih (fun other listed => ?_) fun other listed =>
          each other (List.mem_cons_of_mem segment listed)
        rcases from_done other listed with rfl | there
        · exact empty
        · exact before other there
      · rw [follow_cons_of_not_isDots dots]
        exact ih (List.forall_mem_cons.2 ⟨later, before⟩) fun other listed =>
          each other (List.mem_cons_of_mem segment listed)

/-! ## Paths -/

theorem cleanEnd_cons (rest : List Char) : cleanEnd ('/' :: rest) = '/' :: cleanEnd rest := by
  rw [cleanEnd, ← List.nil_append ('/' :: rest), Text.dropEndWhile_append_cons [] (by decide),
    Text.dropEndWhile_append_cons [] (by decide)]
  rfl

/-- What is sent for a path are the segments that are left of it. -/
theorem sentPath_cons (rest : List Char) :
    sentPath ('/' :: rest) = '/' :: Text.joined '/'
      (segments .web ((cleanEnd rest).takeWhile fun c => !(c == '?' || c == '#'))) := by
  rw [sentPath, cleanEnd_cons]
  rfl

/-- All that is sent is kept. -/
theorem isKept_of_mem_sentPath (rest : List Char) : ∀ c ∈ sentPath ('/' :: rest), IsKept c := by
  rw [sentPath_cons]
  intro c found
  rcases List.mem_cons.1 found with rfl | found
  · decide
  · rcases Text.eq_or_mem_of_mem_joined found with rfl | ⟨segment, listed, within⟩
    · decide
    · refine of_mem_follow (motive := fun segment => ∀ c ∈ segment, IsKept c)
        (fun _ impossible => absurd impossible List.not_mem_nil)
        (fun _ impossible => absurd impossible List.not_mem_nil) (fun encoded cut => ?_)
        segment listed c within
      obtain ⟨piece, there, rfl⟩ := List.mem_map.1 cut
      refine isKept_of_mem_percentEncode fun d inner => ?_
      rintro rfl
      exact absurd (Text.of_mem_pieces there _ inner).2 (by decide)

/-- A path of characters that are kept is cut at slashes and its segments are followed. -/
theorem sentPath_of_kept {rest : List Char} (kept : ∀ c ∈ rest, IsKept c) :
    sentPath ('/' :: rest) =
      '/' :: Text.joined '/' (follow [] (Text.pieces (· == '/') rest)) := by
  have whole : rest.takeWhile (fun c => !(c == '?' || c == '#')) = rest := by
    refine List.takeWhile_eq_self_iff.2 fun c found => ?_
    exact Text.ascii_induction
      (motive := fun c => IsKept c → (!(c == '?' || c == '#')) = true) (by decide)
      (kept c found).1 (kept c found)
  have cut : Text.pieces SchemeKind.web.isSlash rest = Text.pieces (· == '/') rest := by
    refine Text.pieces_congr fun c found => ?_
    have straight : (c == '\\') = false := beq_eq_false_iff_ne.2 (kept c found).2.2
    rw [SchemeKind.isSlash, straight, Bool.false_and, Bool.or_false]
  have encoded : ∀ piece ∈ Text.pieces (· == '/') rest,
      percentEncode isEncodedInPath piece = id piece := fun piece listed =>
    percentEncode_of_kept fun c found => kept c (Text.of_mem_pieces listed c found).1
  rw [sentPath_cons, cleanEnd_of_kept kept, whole, segments, cut, List.map_congr_left encoded,
    List.map_id]

/-- What is sent begins with the path exactly if the path is sent as it is. -/
theorem prefix_sentPath_iff {path : List Char} (absolute : path.head? = some '/') :
    path <+: sentPath path ↔ IsPlainPath path := by
  obtain ⟨rest, rfl⟩ : ∃ rest, path = '/' :: rest := by
    cases path with
    | nil => cases absolute
    | cons c rest => exact ⟨rest, congrArg (· :: rest) (Option.some.inj absolute)⟩
  have pieces_cons : Text.pieces (· == '/') ('/' :: rest) =
      [] :: Text.pieces (· == '/') rest := rfl
  constructor
  · intro begins
    have kept : ∀ c ∈ '/' :: rest, IsKept c := fun c found =>
      isKept_of_mem_sentPath rest c (begins.subset found)
    refine ⟨kept, fun segment listed dots => ?_⟩
    rw [sentPath_of_kept fun c found => kept c (List.mem_cons_of_mem '/' found)] at begins
    have shorter := weight_follow_le [] (Text.pieces (· == '/') rest)
    have there : segment ∈ Text.pieces (· == '/') rest := by
      rw [pieces_cons] at listed
      refine (List.mem_cons.1 listed).resolve_left ?_
      rintro rfl
      exact absurd dots (by decide)
    have several : 0 < (Text.pieces (· == '/') rest).countP (IsDots ·) :=
      List.countP_pos_iff.2 ⟨segment, there, decide_eq_true dots⟩
    have some_rest : 0 < rest.length := by
      obtain ⟨c, found⟩ := List.exists_mem_of_length_pos (length_pos_of_isDots dots)
      exact List.length_pos_of_mem (Text.of_mem_pieces there c found).1
    have long := begins.length_le
    have whole := length_joined (Text.pieces_ne_nil (· == '/') rest)
    rw [Text.joined_pieces] at whole
    have left : (Text.joined '/' (follow [] (Text.pieces (· == '/') rest))).length ≤
        weight (follow [] (Text.pieces (· == '/') rest)) - 1 := by
      generalize follow [] (Text.pieces (· == '/') rest) = segments
      by_cases none_left : segments = []
      · subst none_left
        exact Nat.zero_le _
      · have joined := length_joined none_left
        omega
    have nothing : weight [] = 0 := rfl
    simp only [List.length_cons] at long
    omega
  · rintro ⟨kept, dots⟩
    rw [pieces_cons] at dots
    have same : sentPath ('/' :: rest) = '/' :: rest := by
      rw [sentPath_of_kept fun c found => kept c (List.mem_cons_of_mem '/' found),
        follow_of_not_isDots fun segment listed => dots segment (List.mem_cons_of_mem [] listed),
        List.reverse_nil, List.nil_append, Text.joined_pieces]
    exact ⟨[], by rw [List.append_nil, same]⟩

end Web
end TraceAudit
