/-!
# Sets of names

A set of names is kept as the list of its members in strictly ascending order, so two sets with the
same members are equal.
-/

namespace TraceAudit

structure NameSet where
  /-- The members, in ascending order. -/
  toList : List String
  ascending : toList.Pairwise (· < ·)
  deriving DecidableEq, Repr

namespace NameSet

instance : Membership String NameSet := ⟨fun s name => name ∈ s.toList⟩

theorem mem_def {name : String} {s : NameSet} : name ∈ s ↔ name ∈ s.toList := Iff.rfl

/-- An ascending list with one more name, unless it holds that name. -/
def insertInto (name : String) : List String → List String
  | [] => [name]
  | n :: rest =>
      if name < n then name :: n :: rest
      else if name = n then n :: rest
      else n :: insertInto name rest

theorem mem_insertInto {x name : String} {names : List String} :
    x ∈ insertInto name names ↔ x = name ∨ x ∈ names := by
  induction names with
  | nil => simp [insertInto]
  | cons n rest ih =>
    unfold insertInto
    split
    · simp
    · split
      · subst_vars; simp
      · simp only [List.mem_cons, ih]
        exact or_left_comm

theorem ascending_insertInto (name : String) {names : List String}
    (h : names.Pairwise (· < ·)) : (insertInto name names).Pairwise (· < ·) := by
  induction names with
  | nil => simp [insertInto]
  | cons n rest ih =>
    have ⟨below, rest_ascending⟩ := List.pairwise_cons.1 h
    unfold insertInto
    split
    · rename_i less
      exact List.pairwise_cons.2 ⟨fun x hx => by
        rcases List.mem_cons.1 hx with rfl | hx
        · exact less
        · exact String.lt_trans less (below x hx), h⟩
    · split
      · exact h
      · rename_i notLess notEqual
        refine List.pairwise_cons.2 ⟨fun x hx => ?_, ih rest_ascending⟩
        rcases mem_insertInto.1 hx with rfl | hx
        · exact Decidable.byContradiction fun h' =>
            notEqual (String.le_antisymm (String.not_lt.1 h') (String.not_lt.1 notLess))
        · exact below x hx

/-- The set without members. -/
def empty : NameSet := ⟨[], .nil⟩

/-- The set with one more member. -/
def insert (s : NameSet) (name : String) : NameSet :=
  ⟨insertInto name s.toList, ascending_insertInto name s.ascending⟩

/-- The set of the names in a list. -/
def ofList (names : List String) : NameSet :=
  names.foldl insert empty

/-- The set of all members of either set. -/
def union (s t : NameSet) : NameSet :=
  t.toList.foldl insert s

def isEmpty (s : NameSet) : Bool := s.toList.isEmpty

@[simp] theorem not_mem_empty (x : String) : x ∉ empty := by
  simp [mem_def, empty]

@[simp] theorem mem_insert {x name : String} {s : NameSet} :
    x ∈ s.insert name ↔ x = name ∨ x ∈ s := mem_insertInto

theorem mem_foldl_insert {x : String} {names : List String} {s : NameSet} :
    x ∈ names.foldl insert s ↔ x ∈ names ∨ x ∈ s := by
  induction names generalizing s with
  | nil => simp
  | cons n rest ih =>
    rw [List.foldl_cons, ih, mem_insert, List.mem_cons, or_left_comm, or_assoc]

@[simp] theorem mem_ofList {x : String} {names : List String} :
    x ∈ ofList names ↔ x ∈ names := by
  simp [ofList, mem_foldl_insert]

end NameSet
end TraceAudit
