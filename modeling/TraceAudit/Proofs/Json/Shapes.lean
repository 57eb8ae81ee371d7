import Mathlib.Data.List.Nodup
import TraceAudit.Json.Shape

/-!
# Objects of a shape

An object whose members have values that its shape allows can be read exactly if no field is given
twice. Then each field has the value that the object gives under one of its names, and otherwise the
fault is a field that is given twice.
-/

namespace TraceAudit.Json

/-- The values that members have under some names, in order. -/
def valuesUnder (names : List String) (members : List (String × Json)) : List Json :=
  members.filterMap fun m => if names.contains m.1 then some m.2 else none

theorem valuesUnder_cons (names : List String) (m : String × Json) (rest : List (String × Json)) :
    valuesUnder names (m :: rest) =
      if m.1 ∈ names then m.2 :: valuesUnder names rest else valuesUnder names rest := by
  rw [valuesUnder, List.filterMap_cons]
  by_cases listed : m.1 ∈ names <;> simp [listed, valuesUnder]

theorem mem_valuesUnder {names : List String} {members : List (String × Json)} {m : String × Json}
    (there : m ∈ members) (listed : m.1 ∈ names) : m.2 ∈ valuesUnder names members :=
  List.mem_filterMap.2 ⟨m, there, if_pos (List.contains_iff_mem.2 listed)⟩

theorem valuesUnder_reverse (names : List String) (members : List (String × Json)) :
    valuesUnder names members.reverse = (valuesUnder names members).reverse :=
  List.filterMap_reverse

/-- Looking up a name finds the first value under it. -/
theorem lookup_eq_head? (name : String) (members : List (String × Json)) :
    members.lookup name = (valuesUnder [name] members).head? := by
  induction members with
  | nil => rfl
  | cons m rest ih =>
      rw [valuesUnder_cons, List.lookup_cons, ih]
      by_cases same : m.1 = name
      · simp [same]
      · have other : (name == m.1) = false := by simpa using Ne.symm same
        simp [same, other]

/-- A name is used as often as there are values under it. -/
theorem count_eq_length (name : String) (members : List (String × Json)) :
    (members.map Prod.fst).count name = (valuesUnder [name] members).length := by
  induction members with
  | nil => rfl
  | cons m rest ih =>
      rw [List.map_cons, List.count_cons, ih, valuesUnder_cons]
      by_cases same : m.1 = name <;> simp [same]

theorem isSome_lookup_iff {name : String} {members : List (String × Json)} :
    (members.lookup name).isSome = true ↔ name ∈ members.map Prod.fst := by
  rw [List.lookup_isSome_iff, List.mem_map]
  constructor
  · rintro ⟨m, there, same⟩
    exact ⟨m, there, (beq_iff_eq.1 same).symm⟩
  · rintro ⟨m, there, same⟩
    exact ⟨m, there, beq_iff_eq.2 same.symm⟩

namespace Shape

variable {s : Shape}

/-- The fields that members give, each under its own name, in order. -/
def assigned (s : Shape) (members : List (String × Json)) : Fields :=
  members.filterMap fun m => (s.field? m.1).map fun f => (f.name, m.2)

/-- The members that stand for fields have values that the fields may hold. -/
def Allows (s : Shape) (members : List (String × Json)) : Prop :=
  ∀ m ∈ members, ∀ f, s.field? m.1 = some f → f.kind.allows m.2 = true

theorem assigned_cons_none {m : String × Json} (noField : s.field? m.1 = none)
    (rest : List (String × Json)) : s.assigned (m :: rest) = s.assigned rest := by
  simp [assigned, noField]

theorem assigned_cons_some {m : String × Json} {f : Field} (field : s.field? m.1 = some f)
    (rest : List (String × Json)) :
    s.assigned (m :: rest) = (f.name, m.2) :: s.assigned rest := by
  simp [assigned, field]

/-- A field is given the values under the names that stand for it. -/
theorem valuesUnder_assigned {name : String} {names : List String}
    (stands : ∀ given, (s.field? given).map Field.name = some name ↔ given ∈ names)
    (members : List (String × Json)) :
    valuesUnder [name] (s.assigned members) = valuesUnder names members := by
  induction members with
  | nil => rfl
  | cons m rest ih =>
      have here := stands m.1
      rw [valuesUnder_cons names]
      cases field : s.field? m.1 with
      | none =>
          rw [field] at here
          have other : m.1 ∉ names := by simpa using here
          rw [assigned_cons_none field, ih, if_neg other]
      | some f =>
          rw [field] at here
          rw [assigned_cons_some field, valuesUnder_cons, ih]
          by_cases same : f.name = name
          · have listed : m.1 ∈ names := by simpa [same] using here
            simp [same, listed]
          · have other : m.1 ∉ names := by simpa [same] using here
            simp [same, other]

/-- Reading members that the shape allows finds the fields that they give, unless one of them is
given twice, and then it fails for that. -/
theorem foldlM_addMember (isOpen : s.isClosed = false) {members : List (String × Json)}
    (allowed : s.Allows members) (found : Fields) (distinct : (found.map Prod.fst).Nodup) :
    (((s.assigned members ++ found).map Prod.fst).Nodup ∧
      members.foldlM s.addMember found = .ok ((s.assigned members).reverse ++ found)) ∨
    ∃ name, 2 ≤ ((s.assigned members ++ found).map Prod.fst).count name ∧
      members.foldlM s.addMember found = .error (.duplicate name) := by
  induction members generalizing found with
  | nil => exact .inl ⟨distinct, rfl⟩
  | cons m rest ih =>
      have later := ih fun n listed => allowed n (List.mem_cons_of_mem m listed)
      cases field : s.field? m.1 with
      | none =>
          have skipped : s.addMember found m = .ok found := by simp [addMember, field, isOpen]
          rw [List.foldlM_cons, skipped, assigned_cons_none field]
          exact later found distinct
      | some f =>
          rw [List.foldlM_cons, assigned_cons_some field]
          by_cases given : f.name ∈ found.map Prod.fst
          · have twice : s.addMember found m = .error (.duplicate f.name) := by
              simp [addMember, field, isSome_lookup_iff.2 given]
            rw [twice]
            refine .inr ⟨f.name, ?_, rfl⟩
            have before := List.count_pos_iff.2 given
            rw [List.cons_append, List.map_cons, List.map_append, List.count_cons_self,
              List.count_append]
            omega
          · have added : s.addMember found m = .ok ((f.name, m.2) :: found) := by
              have fits := allowed m List.mem_cons_self f field
              have absent := mt isSome_lookup_iff.1 given
              simp only [addMember, field, absent, addField, fits, if_true, if_false,
                Bool.false_eq_true]
            rw [added]
            have moved : ((s.assigned rest ++ (f.name, m.2) :: found).map Prod.fst).Perm
                (((f.name, m.2) :: s.assigned rest ++ found).map Prod.fst) :=
              List.perm_middle.map Prod.fst
            have once : (((f.name, m.2) :: found).map Prod.fst).Nodup :=
              List.nodup_cons.2 ⟨given, distinct⟩
            rcases later _ once with ⟨once, read⟩ | ⟨name, twice, failed⟩
            · refine .inl ⟨moved.nodup_iff.1 once, ?_⟩
              rw [List.reverse_cons, List.append_assoc]
              exact read
            · exact .inr ⟨name, moved.count_eq name ▸ twice, failed⟩

end Shape
end TraceAudit.Json
