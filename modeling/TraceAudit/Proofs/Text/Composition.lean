import TraceAudit.Text.Composition

/-!
# Composition of ASCII

No mark is in ASCII, and no character is another one and a character of ASCII in one. So a text of
ASCII is not changed when it is composed. Both are facts on the tables, which are gone through row
by row.
-/

namespace TraceAudit.Text

/-! ## Tables -/

/-- Whether all entries of a row make runs of a kind. -/
def rowHolds (p : Run → Bool) (row : List Char) : Bool :=
  (pieces (· == ' ') row).all (p ∘ Run.ofEntry)

/-- One more row, given by its characters, so that they need not be taken from the row. -/
theorem all_rowHolds_cons {p : Run → Bool} {row : List Char} {rest : List String}
    (here : rowHolds p row = true) (later : (rest.all fun row => rowHolds p row.toList) = true) :
    ((String.ofList row :: rest).all fun row => rowHolds p row.toList) = true := by
  rw [List.all_cons, String.toList_ofList, here, later, Bool.and_true]

/-- What holds of all entries of all rows holds of the table. -/
theorem of_mem_ofRows {p : Run → Bool} {rows : List String}
    (each : (rows.all fun row => rowHolds p row.toList) = true) :
    ∀ r ∈ Run.ofRows rows, p r = true := by
  intro r listed
  obtain ⟨row, there, made⟩ := List.mem_flatMap.1 listed
  obtain ⟨entry, written, rfl⟩ := List.mem_map.1 made
  exact List.all_eq_true.1 (List.all_eq_true.1 each row there) entry written

/-- No mark is in ASCII. -/
theorem first_markClasses : ∀ r ∈ markClasses, (128 ≤ r.first : Bool) = true := by
  refine of_mem_ofRows ?_
  unfold markClassRows
  repeat refine all_rowHolds_cons (by decide +kernel) ?_
  rfl

/-- The second of the two characters in one is not in ASCII. -/
theorem second_composites : ∀ r ∈ composites, (r.value.drop 1).all (128 ≤ ·) = true := by
  refine of_mem_ofRows (p := fun r => (r.value.drop 1).all (128 ≤ ·)) ?_
  unfold compositeRows
  repeat refine all_rowHolds_cons (by decide +kernel) ?_
  rfl

/-! ## Texts of ASCII -/

theorem decompose_of_ascii {n : Nat} (ascii : n < 128) (depth : Nat) : decompose depth n = [n] := by
  cases depth with
  | zero => rfl
  | succ depth => exact if_pos (by omega)

theorem markClass_of_ascii {n : Nat} (ascii : n < 128) : markClass n = 0 := by
  have none_holds : findRun? markClasses n = none := by
    refine List.find?_eq_none.2 fun r listed holds => ?_
    have above := of_decide_eq_true (first_markClasses r listed)
    simp only [Run.holds, Bool.and_eq_true, decide_eq_true_eq] at holds
    omega
  rw [markClass, none_holds]

theorem composite?_of_ascii (a : Nat) {b : Nat} (ascii : b < 128) : composite? a b = none := by
  have letters : Hangul.compose? a b = none := by
    have vowel : ¬Hangul.firstVowel ≤ b := by
      unfold Hangul.firstVowel
      omega
    have trail : ¬Hangul.trailBase < b := by
      unfold Hangul.trailBase
      omega
    rw [Hangul.compose?, if_neg fun both => vowel both.2.2.1, if_neg fun both => trail both.2.2.1]
  have none_listed : composites.find? (·.value == [a, b]) = none := by
    refine List.find?_eq_none.2 fun r listed same => ?_
    have above := second_composites r listed
    rw [beq_iff_eq.1 same] at above
    simp only [List.drop_succ_cons, List.drop_zero, List.all_cons, List.all_nil, Bool.and_true,
      decide_eq_true_eq] at above
    omega
  rw [composite?, letters, none_listed]
  rfl

/-- Characters of ASCII keep their order. -/
theorem ordered_of_ascii {ns : List Nat} (ascii : ∀ n ∈ ns, n < 128) :
    ordered ns = ns.map fun n => (0, n) := by
  have fold (done : List (Nat × Nat)) :
      ns.foldl (fun done n => insertMark (markClass n, n) done) done =
        (ns.map fun n => (0, n)).reverse ++ done := by
    induction ns generalizing done with
    | nil => rfl
    | cons n rest ih =>
        have first : insertMark (markClass n, n) done = (0, n) :: done := by
          rw [markClass_of_ascii (ascii n List.mem_cons_self)]
          cases done <;> simp [insertMark]
        rw [List.foldl_cons, first, ih fun m listed => ascii m (List.mem_cons_of_mem n listed)]
        simp
  rw [ordered, fold, List.append_nil, List.reverse_reverse]

/-- Characters of ASCII are not put together. -/
theorem compose_of_ascii {ns : List Nat} (ascii : ∀ n ∈ ns, n < 128) (base : Option Nat) :
    compose base [] (ns.map fun n => (0, n)) = base.toList ++ ns := by
  induction ns generalizing base with
  | nil => simp [compose]
  | cons n rest ih =>
      have apart : base.bind (composite? · n) = none := by
        cases base with
        | none => rfl
        | some b => exact composite?_of_ascii b (ascii n List.mem_cons_self)
      have later := ih (fun m listed => ascii m (List.mem_cons_of_mem n listed)) (some n)
      simp [compose, apart, later]

/-- A text of ASCII is composed. -/
theorem composed_of_ascii {cs : List Char} (ascii : ∀ c ∈ cs, c.toNat < 128) :
    composed cs = cs := by
  have small : ∀ n ∈ cs.map Char.toNat, n < 128 := by
    intro n listed
    obtain ⟨c, found, rfl⟩ := List.mem_map.1 listed
    exact ascii c found
  have whole : cs.flatMap (fun c => decompose maxParts c.toNat) = cs.map Char.toNat := by
    have each : ∀ c ∈ cs, decompose maxParts c.toNat = [c.toNat] :=
      fun c found => decompose_of_ascii (ascii c found) maxParts
    rw [List.map_eq_flatMap, List.flatMap_def, List.flatMap_def, List.map_congr_left each]
  have back : (cs.map Char.toNat).map Char.ofNat = cs := by
    rw [List.map_map]
    exact List.map_id'' (fun c => Char.ofNat_toNat c) cs
  rw [composed, whole, ordered_of_ascii small, compose_of_ascii small none, Option.toList_none,
    List.nil_append, back]

end TraceAudit.Text
