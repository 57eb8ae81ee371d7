import Mathlib.Data.List.Pairwise
import TraceAudit.Proofs.Json.Shapes
import TraceAudit.Proofs.Steps

/-!
# Values of an open shape

A shape that is not closed passes over the members that stand for no field. An object has such a
shape exactly if it gives each field at most one value, which the field may hold, and leaves out no
field that has to be there. An array has it exactly if its items are values of the first fields, in
order, and the fields after these may be left out.
-/

namespace TraceAudit.Json

/-- A text as a value, with null for none. -/
def orNull : Option String → Json
  | some s => .string s
  | none => .null

theorem mem_valuesUnder_iff {names : List String} {members : List (String × Json)} {value : Json} :
    value ∈ valuesUnder names members ↔ ∃ m ∈ members, m.1 ∈ names ∧ m.2 = value := by
  constructor
  · intro there
    obtain ⟨m, listed, given⟩ := List.mem_filterMap.1 there
    by_cases named : m.1 ∈ names
    · rw [if_pos (List.contains_iff_mem.2 named)] at given
      exact ⟨m, listed, named, Option.some.inj given⟩
    · rw [if_neg (mt List.contains_iff_mem.1 named)] at given
      cases given
  · rintro ⟨m, listed, named, rfl⟩
    exact mem_valuesUnder listed named

namespace FieldKind

theorem allows_text_iff {value : Json} :
    text.allows value = true ↔ ∃ s, value = .string s := by
  cases value <;> simp [allows]

theorem allows_members_iff {value : Json} :
    members.allows value = true ↔ ∃ inner, value = .object inner := by
  cases value <;> simp [allows]

theorem allows_textOrNull_iff {value : Json} :
    textOrNull.allows value = true ↔ ∃ s, value = orNull s := by
  cases value <;> simp [allows, orNull, Option.exists]

end FieldKind

namespace Field

/-- The names under which an object may give a field. -/
def names (f : Field) : List String :=
  f.name :: f.aliases

/-- What an object may give a field: a value that the field may hold, or nothing if the field may be
left out. -/
inductive Fits (f : Field) : Option Json → Prop where
  | absent (optional : f.presence ≠ .everywhere) : Fits f none
  | given {value : Json} (allowed : f.kind.allows value = true) : Fits f (some value)

variable {α : Type} {f : Field} {write : α → Json} {value : Option Json}

/-- What fits a field that may be left out, where the values that the field may hold are the ways to
write something. -/
theorem fits_iff_of_optional (optional : f.presence ≠ .everywhere)
    (allows_iff : ∀ {value}, f.kind.allows value = true ↔ ∃ a, value = write a) :
    f.Fits value ↔ ∃ a : Option α, value = a.map write := by
  constructor
  · intro fits
    cases fits with
    | absent => exact ⟨none, rfl⟩
    | given allowed =>
        obtain ⟨a, rfl⟩ := allows_iff.1 allowed
        exact ⟨some a, rfl⟩
  · rintro ⟨a, rfl⟩
    cases a with
    | none => exact .absent optional
    | some a => exact .given (allows_iff.2 ⟨a, rfl⟩)

/-- What fits a field that has to be there. -/
theorem fits_iff_of_needed (needed : f.presence = .everywhere)
    (allows_iff : ∀ {value}, f.kind.allows value = true ↔ ∃ a, value = write a) :
    f.Fits value ↔ ∃ a, value = some (write a) := by
  constructor
  · intro fits
    cases fits with
    | absent optional => exact absurd needed optional
    | given allowed =>
        obtain ⟨a, rfl⟩ := allows_iff.1 allowed
        exact ⟨a, rfl⟩
  · rintro ⟨a, rfl⟩
    exact .given (allows_iff.2 ⟨a, rfl⟩)

end Field

namespace Shape

variable {s : Shape} {members : List (String × Json)} {found : Fields}

/-- No name stands for two fields. -/
def Apart (s : Shape) : Prop :=
  s.fields.Pairwise fun f g => ∀ name ∈ f.names, name ∉ g.names

/-- A field that a name stands for is the only one. -/
theorem Apart.eq_of_mem (apart : s.Apart) {f g : Field} (listed : f ∈ s.fields)
    (also_listed : g ∈ s.fields) {name : String} (named : name ∈ f.names)
    (also_named : name ∈ g.names) : f = g := by
  by_contra differ
  have symmetric : Std.Symm fun f g : Field => ∀ name ∈ f.names, name ∉ g.names :=
    ⟨fun _ _ away name there here => away name here there⟩
  exact apart.forall listed also_listed differ name named also_named

theorem Apart.field?_eq_some_iff (apart : s.Apart) {name : String} {f : Field} :
    s.field? name = some f ↔ f ∈ s.fields ∧ name ∈ f.names := by
  have named_iff (g : Field) : (g.name == name || g.aliases.contains name) = true ↔
      name ∈ g.names := by
    rw [Bool.or_eq_true, beq_iff_eq, List.contains_iff_mem, Field.names, List.mem_cons, eq_comm]
  constructor
  · intro field
    have named := List.find?_some field
    exact ⟨List.mem_of_find?_eq_some field, (named_iff f).1 named⟩
  · rintro ⟨listed, named⟩
    cases field : s.field? name with
    | none =>
        have unnamed := List.find?_eq_none.1 field f listed
        exact absurd ((named_iff f).2 named) unnamed
    | some g =>
        have accepted := List.find?_some field
        have also_named := (named_iff g).1 accepted
        rw [apart.eq_of_mem listed (List.mem_of_find?_eq_some field) named also_named]

/-- The names of a field are those that stand for it. -/
theorem Apart.stands (apart : s.Apart) {f : Field} (listed : f ∈ s.fields) (name : String) :
    (s.field? name).map Field.name = some f.name ↔ name ∈ f.names := by
  constructor
  · intro stands
    obtain ⟨g, field, same⟩ := Option.map_eq_some_iff.1 stands
    obtain ⟨also_listed, named⟩ := apart.field?_eq_some_iff.1 field
    have own : f.name ∈ f.names := List.mem_cons_self
    have shared : f.name ∈ g.names := by
      rw [← same]
      exact List.mem_cons_self
    rwa [apart.eq_of_mem listed also_listed own shared]
  · intro named
    rw [apart.field?_eq_some_iff.2 ⟨listed, named⟩]
    rfl

/-- A name that is found is the name of a field. -/
theorem exists_field_of_mem_assigned {name : String}
    (given : name ∈ (s.assigned members).map Prod.fst) : ∃ f ∈ s.fields, f.name = name := by
  obtain ⟨entry, there, rfl⟩ := List.mem_map.1 given
  obtain ⟨m, _, assigned⟩ := List.mem_filterMap.1 there
  obtain ⟨f, field, rfl⟩ := Option.map_eq_some_iff.1 assigned
  exact ⟨f, List.mem_of_find?_eq_some field, rfl⟩

theorem Apart.allows_iff (apart : s.Apart) :
    s.Allows members ↔
      ∀ f ∈ s.fields, ∀ value ∈ valuesUnder f.names members, f.kind.allows value = true := by
  constructor
  · intro allowed f listed value there
    obtain ⟨m, given, named, rfl⟩ := mem_valuesUnder_iff.1 there
    exact allowed m given f (apart.field?_eq_some_iff.2 ⟨listed, named⟩)
  · intro allowed m given f field
    obtain ⟨listed, named⟩ := apart.field?_eq_some_iff.1 field
    exact allowed f listed m.2 (mem_valuesUnder given named)

/-- A field is found as often as it is given a value. -/
theorem Apart.count_assigned (apart : s.Apart) {f : Field} (listed : f ∈ s.fields) :
    ((s.assigned members).map Prod.fst).count f.name = (valuesUnder f.names members).length := by
  rw [count_eq_length, valuesUnder_assigned (apart.stands listed)]

/-- No field is found twice exactly if none is given twice. -/
theorem Apart.nodup_assigned_iff (apart : s.Apart) :
    ((s.assigned members).map Prod.fst).Nodup ↔
      ∀ f ∈ s.fields, (valuesUnder f.names members).length ≤ 1 := by
  rw [List.nodup_iff_count_le_one]
  constructor
  · intro once f listed
    rw [← apart.count_assigned listed]
    exact once f.name
  · intro once name
    by_cases given : name ∈ (s.assigned members).map Prod.fst
    · obtain ⟨f, listed, rfl⟩ := exists_field_of_mem_assigned given
      rw [apart.count_assigned listed]
      exact once f listed
    · rw [List.count_eq_zero_of_not_mem given]
      exact Nat.zero_le 1

/-- A field that is given at most one value is found with it. -/
theorem Apart.lookup_assigned (apart : s.Apart) {f : Field} (listed : f ∈ s.fields)
    {value : Option Json} (given : valuesUnder f.names members = value.toList) :
    (s.assigned members).reverse.lookup f.name = value := by
  rw [lookup_eq_head?, valuesUnder_reverse, valuesUnder_assigned (apart.stands listed), given]
  cases value <;> rfl

/-- Members that were read have values that the shape allows. -/
theorem allows_of_foldlM {before : Fields} (read : members.foldlM s.addMember before = .ok found) :
    s.Allows members := by
  induction members generalizing before with
  | nil => exact fun m there => absurd there List.not_mem_nil
  | cons m rest ih =>
      rw [List.foldlM_cons] at read
      cases step : s.addMember before m with
      | error fault =>
          rw [step] at read
          cases read
      | ok after =>
          rw [step] at read
          intro n there f field
          rcases List.mem_cons.1 there with rfl | later
          · simp only [addMember, field] at step
            split at step
            · cases step
            · unfold addField at step
              split at step
              · assumption
              · cases step
          · exact ih read n later f field

theorem foldlM_addMember_eq_ok_iff (isOpen : s.isClosed = false) :
    members.foldlM s.addMember [] = .ok found ↔
      s.Allows members ∧ ((s.assigned members).map Prod.fst).Nodup ∧
        found = (s.assigned members).reverse := by
  constructor
  · intro read
    have allowed := allows_of_foldlM read
    rcases foldlM_addMember isOpen allowed [] List.nodup_nil with ⟨once, done⟩ | ⟨_, _, failed⟩
    · rw [List.append_nil] at once done
      exact ⟨allowed, once, Except.ok.inj (read.symm.trans done)⟩
    · cases read.symm.trans failed
  · rintro ⟨allowed, once, rfl⟩
    rcases foldlM_addMember isOpen allowed [] List.nodup_nil with ⟨_, done⟩ | ⟨name, twice, _⟩
    · rwa [List.append_nil] at done
    · rw [List.append_nil] at twice
      have atMostOnce := List.nodup_iff_count_le_one.1 once name
      omega

/-- Reading the members of an object is reading one after the other, and then no field is missing
that has to be there. -/
theorem readMembers_eq_ok_iff_foldlM :
    s.readMembers members = .ok found ↔
      members.foldlM s.addMember [] = .ok found ∧
        ∀ f ∈ s.fields, f.presence = .everywhere → found.lookup f.name ≠ none := by
  refine bind_eq_ok_iff.trans ?_
  constructor
  · rintro ⟨all, read, done⟩
    split at done
    · cases done
    · rename_i whole
      cases done
      refine ⟨read, ?_⟩
      intro f listed needed absent
      have there := List.find?_eq_none.1 whole f listed
      rw [needed, absent] at there
      exact there rfl
  · rintro ⟨read, complete⟩
    refine ⟨found, read, ?_⟩
    split
    · rename_i f missing
      have absent := List.find?_some missing
      rw [Bool.and_eq_true, beq_iff_eq, Option.isNone_iff_eq_none] at absent
      exact absurd absent.2 (complete f (List.mem_of_find?_eq_some missing) absent.1)
    · rfl

/-- An object can be read exactly if it gives each field what fits it, once. -/
theorem Apart.readMembers_eq_ok_iff (apart : s.Apart) (isOpen : s.isClosed = false) :
    s.readMembers members = .ok found ↔
      (∀ f ∈ s.fields, ∃ value, valuesUnder f.names members = value.toList ∧ f.Fits value) ∧
        found = (s.assigned members).reverse := by
  rw [readMembers_eq_ok_iff_foldlM, foldlM_addMember_eq_ok_iff isOpen, apart.allows_iff,
    apart.nodup_assigned_iff]
  constructor
  · rintro ⟨⟨allowed, once, rfl⟩, complete⟩
    refine ⟨?_, rfl⟩
    intro f listed
    match values : valuesUnder f.names members, once f listed with
    | [], _ =>
        have nothing : valuesUnder f.names members = (none : Option Json).toList := values
        refine ⟨none, rfl, .absent ?_⟩
        intro needed
        exact complete f listed needed (apart.lookup_assigned listed nothing)
    | [value], _ =>
        refine ⟨some value, rfl, .given (allowed f listed value ?_)⟩
        rw [values]
        exact List.mem_singleton_self value
  · rintro ⟨given, rfl⟩
    refine ⟨⟨?_, ?_, rfl⟩, ?_⟩
    · intro f listed value there
      obtain ⟨only, values, fits⟩ := given f listed
      rw [values] at there
      cases fits with
      | absent => cases there
      | given allowed =>
          rw [List.mem_singleton.1 there]
          exact allowed
    · intro f listed
      obtain ⟨only, values, fits⟩ := given f listed
      rw [values]
      cases fits with
      | absent => exact Nat.zero_le 1
      | given => exact Nat.le_refl 1
    · intro f listed needed absent
      obtain ⟨only, values, fits⟩ := given f listed
      rw [apart.lookup_assigned listed values] at absent
      cases fits with
      | absent optional => exact optional needed
      | given => cases absent

/-! ## Arrays -/

/-- Items are values of the first of some fields, which are found with them, and the fields after
these may be left out. -/
inductive FitItems : List Field → List Json → Fields → Prop where
  | ended {fields : List Field} (optional : ∀ f ∈ fields, f.presence = .nowhere) :
      FitItems fields [] []
  | item {f : Field} {fields : List Field} {item : Json} {items : List Json} {found : Fields}
      (allowed : f.kind.allows item = true) (others : FitItems fields items found) :
      FitItems (f :: fields) (item :: items) ((f.name, item) :: found)

/-- An array can be read exactly if its items fit the fields. -/
theorem readItems_eq_ok_iff {fields : List Field} {items : List Json} {count index : Nat}
    {before : Fields} :
    s.readItems jsonForm count index before fields items = .ok found ↔
      ∃ given, FitItems fields items given ∧ found = given.reverse ++ before := by
  induction fields generalizing items index before with
  | nil =>
      cases items with
      | nil =>
          constructor
          · intro read
            exact ⟨[], .ended fun f there => absurd there List.not_mem_nil,
              (Except.ok.inj read).symm⟩
          · rintro ⟨given, fit, rfl⟩
            cases fit
            rfl
      | cons item items =>
          constructor
          · intro impossible
            cases impossible
          · rintro ⟨given, fit, _⟩
            cases fit
  | cons f fields ih =>
      cases items with
      | nil =>
          rw [readItems]
          by_cases optional : f.presence = .nowhere
          · rw [if_pos (beq_iff_eq.2 optional), ih]
            constructor
            · rintro ⟨given, fit, rfl⟩
              cases fit with
              | ended others =>
                  exact ⟨[], .ended (List.forall_mem_cons.2 ⟨optional, others⟩), rfl⟩
            · rintro ⟨given, fit, rfl⟩
              cases fit with
              | ended all => exact ⟨[], .ended (List.forall_mem_cons.1 all).2, rfl⟩
          · rw [if_neg (mt beq_iff_eq.1 optional)]
            constructor
            · intro impossible
              cases impossible
            · rintro ⟨given, fit, _⟩
              cases fit with
              | ended all => exact absurd (List.forall_mem_cons.1 all).1 optional
      | cons item items =>
          rw [readItems, addField]
          by_cases allowed : f.kind.allows item = true
          · rw [if_pos allowed]
            refine ih.trans ?_
            constructor
            · rintro ⟨given, fit, rfl⟩
              exact ⟨_, .item allowed fit, by rw [List.reverse_cons, List.append_assoc]; rfl⟩
            · rintro ⟨given, fit, rfl⟩
              cases fit with
              | item _ others =>
                  exact ⟨_, others, by rw [List.reverse_cons, List.append_assoc]; rfl⟩
          · rw [if_neg allowed]
            constructor
            · intro impossible
              cases impossible
            · rintro ⟨given, fit, _⟩
              cases fit with
              | item fits _ => exact absurd fits allowed

/-- What is read of a value is read of the members of an object or of the items of an array. -/
theorem read_eq_ok_iff {value : Json} :
    s.read jsonForm value = .ok found ↔
      (∃ members, value = .object members ∧ s.readMembers members = .ok found) ∨
        ∃ items given, value = .array items ∧ FitItems s.fields items given ∧
          found = given.reverse := by
  constructor
  · intro read
    cases value with
    | object members => exact .inl ⟨members, rfl, read⟩
    | array items =>
        obtain ⟨given, fit, same⟩ := readItems_eq_ok_iff.1 read
        rw [List.append_nil] at same
        exact .inr ⟨items, given, rfl, fit, same⟩
    | null => cases read
    | bool b => cases read
    | number n => cases read
    | string text => cases read
  · rintro (⟨members, rfl, read⟩ | ⟨items, given, rfl, fit, rfl⟩)
    · exact read
    · exact readItems_eq_ok_iff.2 ⟨given, fit, (List.append_nil _).symm⟩

end Shape
end TraceAudit.Json
