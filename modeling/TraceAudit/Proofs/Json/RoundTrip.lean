import TraceAudit.Proofs.Json.Lexing

/-!
# Reading what was written

A value whose numbers are integers of sixty-four bits, and in which no more containers are open at
once than a reader allows, is read as it was written. Its text is cut into the tokens of the value,
and the machine that takes them ends with the value.
-/

namespace TraceAudit.Json

/-- A value that can be read back: its numbers are integers of sixty-four bits, and there is room
for its containers. -/
inductive Fits : Nat → Json → Prop where
  | null {room : Nat} : Fits room .null
  | bool {room : Nat} (b : Bool) : Fits room (.bool b)
  | integer {room : Nat} {n : Int} (word : IsWord n) : Fits room (.number (.integer n))
  | string {room : Nat} (s : String) : Fits room (.string s)
  | array {room : Nat} {items : List Json} (each : ∀ v ∈ items, Fits room v) :
      Fits (room + 1) (.array items)
  | object {room : Nat} {members : List (String × Json)} (each : ∀ m ∈ members, Fits room m.2) :
      Fits (room + 1) (.object members)

namespace Fits

variable {room : Nat}

@[simp] theorem text (s : String) : Fits room (.string s) := .string s

@[simp] theorem object_nil : Fits (room + 1) (.object []) :=
  .object fun _ impossible => absurd impossible List.not_mem_nil

@[simp] theorem object_cons {name : String} {v : Json} {rest : List (String × Json)} :
    Fits (room + 1) (.object ((name, v) :: rest)) ↔
      Fits room v ∧ Fits (room + 1) (.object rest) := by
  constructor
  · rintro ⟨⟩
    rename_i each
    obtain ⟨here, later⟩ := List.forall_mem_cons.1 each
    exact ⟨here, .object later⟩
  · rintro ⟨here, ⟨⟩⟩
    rename_i later
    exact .object (List.forall_mem_cons.2 ⟨here, later⟩)

end Fits

/-! ## The tokens of a value -/

mutual
/-- The tokens of a value. -/
def tokens : Json → List Token
  | .null => [.null]
  | .bool b => [.bool b]
  | .number n => [.number n]
  | .string s => [.string s]
  | .array [] => [.openBracket, .closeBracket]
  | .array (v :: rest) => .openBracket :: (tokens v ++ itemTokens rest)
  | .object [] => [.openBrace, .closeBrace]
  | .object ((name, v) :: rest) =>
      .openBrace :: .string name :: .colon :: (tokens v ++ memberTokens rest)

/-- The tokens of the further items of an array, and of its closing bracket. -/
def itemTokens : List Json → List Token
  | [] => [.closeBracket]
  | v :: rest => .comma :: (tokens v ++ itemTokens rest)

/-- The tokens of the further members of an object, and of its closing brace. -/
def memberTokens : List (String × Json) → List Token
  | [] => [.closeBrace]
  | (name, v) :: rest => .comma :: .string name :: .colon :: (tokens v ++ memberTokens rest)
end

/-! ## Pretty texts -/

theorem Lexed.newLine {rest : List Char} {ts : List Token} (depth : Nat) (later : Lexed rest ts) :
    Lexed (newLine depth ++ rest) ts := by
  have blanks (count : Nat) : Lexed (List.replicate count ' ' ++ rest) ts := by
    induction count with
    | zero => exact later
    | succ count ih =>
        rw [List.replicate_succ, List.cons_append]
        exact .space rfl ih
  rw [Json.newLine, List.cons_append]
  exact .space rfl (blanks _)

/-- A value whose text at any depth is cut into its tokens, whatever comes later. -/
def IsCut (v : Json) : Prop :=
  ∀ (depth : Nat) {rest : List Char} {ts : List Token}, continuesNumber rest = false →
    Lexed rest ts → Lexed (prettyChars depth v ++ rest) (tokens v ++ ts)

theorem continuesNumber_prettyItems (depth : Nat) (items : List Json) (rest : List Char) :
    continuesNumber (prettyItems depth items ++ rest) = false := by
  cases items <;> rfl

theorem continuesNumber_prettyMembers (depth : Nat) (members : List (String × Json))
    (rest : List Char) : continuesNumber (prettyMembers depth members ++ rest) = false := by
  rcases members with _ | ⟨⟨name, v⟩, members⟩ <;> rfl

theorem lexed_prettyItems {items : List Json} (each : ∀ v ∈ items, IsCut v) (depth : Nat)
    {rest : List Char} {ts : List Token} (later : Lexed rest ts) :
    Lexed (prettyItems depth items ++ rest) (itemTokens items ++ ts) := by
  induction items with
  | nil =>
      rw [prettyItems, itemTokens, List.append_assoc]
      exact .newLine depth (.token rfl rfl (Nat.le_refl _) later)
  | cons v items ih =>
      have further := ih fun w listed => each w (List.mem_cons_of_mem v listed)
      have here := each v List.mem_cons_self (depth + 1)
        (continuesNumber_prettyItems depth items rest) further
      simp only [prettyItems, itemTokens, List.cons_append, List.append_assoc]
      exact .token rfl rfl (Nat.le_refl _) (.newLine _ here)

/-- A member is its name, a colon and its value. -/
theorem lexed_member (name : String) {cs : List Char} {ts : List Token} (depth : Nat)
    (later : Lexed cs ts) :
    Lexed (newLine depth ++ (quote name ++ ':' :: ' ' :: cs))
      (.string name :: .colon :: ts) :=
  .newLine depth (.quote name (.token rfl rfl (Nat.le_refl _) (.space rfl later)))

theorem lexed_prettyMembers {members : List (String × Json)} (each : ∀ m ∈ members, IsCut m.2)
    (depth : Nat) {rest : List Char} {ts : List Token} (later : Lexed rest ts) :
    Lexed (prettyMembers depth members ++ rest) (memberTokens members ++ ts) := by
  induction members with
  | nil =>
      rw [prettyMembers, memberTokens, List.append_assoc]
      exact .newLine depth (.token rfl rfl (Nat.le_refl _) later)
  | cons m members ih =>
      obtain ⟨name, v⟩ := m
      have further := ih fun n listed => each n (List.mem_cons_of_mem _ listed)
      have here := each (name, v) List.mem_cons_self (depth + 1)
        (continuesNumber_prettyMembers depth members rest) further
      simp only [prettyMembers, memberTokens, List.cons_append, List.append_assoc]
      exact .token rfl rfl (Nat.le_refl _) (lexed_member name _ here)

/-- The text of a value is cut into its tokens. -/
theorem Fits.isCut {room : Nat} {v : Json} (fits : Fits room v) : IsCut v := by
  induction fits with
  | null => exact fun _ _ _ _ later => .token rfl rfl (Nat.le_add_right _ 3) later
  | bool b =>
      cases b
      · exact fun _ _ _ _ later => .token rfl rfl (Nat.le_add_right _ 4) later
      · exact fun _ _ _ _ later => .token rfl rfl (Nat.le_add_right _ 3) later
  | integer word => exact fun _ _ _ ended later => .integer word ended later
  | string s => exact fun _ _ _ _ later => .quote s later
  | @array room items each ih =>
      intro depth rest ts ended later
      cases items with
      | nil => exact .token rfl rfl (Nat.le_refl _) (.token rfl rfl (Nat.le_refl _) later)
      | cons v items =>
          have further := lexed_prettyItems (fun w listed => ih w (List.mem_cons_of_mem v listed))
            depth later
          have here := ih v List.mem_cons_self (depth + 1)
            (continuesNumber_prettyItems depth items rest) further
          simp only [prettyChars, tokens, List.cons_append, List.append_assoc]
          exact .token rfl rfl (Nat.le_refl _) (.newLine _ here)
  | @object room members each ih =>
      intro depth rest ts ended later
      rcases members with _ | ⟨⟨name, v⟩, members⟩
      · exact .token rfl rfl (Nat.le_refl _) (.token rfl rfl (Nat.le_refl _) later)
      · have further := lexed_prettyMembers
          (fun n listed => ih n (List.mem_cons_of_mem _ listed)) depth later
        have here := ih (name, v) List.mem_cons_self (depth + 1)
          (continuesNumber_prettyMembers depth members rest) further
        simp only [prettyChars, tokens, List.cons_append, List.append_assoc]
        exact .token rfl rfl (Nat.le_refl _) (lexed_member name _ here)

/-! ## The machine -/

namespace Machine

/-- A value whose tokens the machine takes for the value wherever one may start and there is room
for its containers. -/
def Takes (room : Nat) (v : Json) : Prop :=
  ∀ (m : Machine) (ts : List Token),
    m.expect = .value ∨ m.expect = .firstItem → m.stack.length + room ≤ maxDepth →
    m.run (tokens v ++ ts) = (finish m.stack v).bind (·.run ts)

/-- Where a value may start, a token that does not close a container starts one. -/
theorem step_of_value {m : Machine} (awaits : m.expect = .value ∨ m.expect = .firstItem)
    {t : Token} (opens : t ≠ .closeBracket) : m.step t = beginValue m.stack t := by
  rcases awaits with value | first
  · simp [step, value]
  · simp [step, first, opens]

theorem run_cons (m : Machine) (t : Token) (ts : List Token) :
    m.run (t :: ts) = (m.step t).bind (·.run ts) := rfl

/-- A value that is one token. -/
theorem takes_token {t : Token} {v : Json} (room : Nat) (opens : t ≠ .closeBracket)
    (one : tokens v = [t]) (begins : ∀ stack, beginValue stack t = finish stack v) :
    Takes room v := by
  intro m ts awaits _
  rw [one, List.singleton_append, run_cons, step_of_value awaits opens, begins]

/-- The further items of an array, and its closing bracket. -/
theorem run_itemTokens {room : Nat} {items : List Json} (each : ∀ v ∈ items, Takes room v)
    (before : List Json) {stack : List Frame} (deep : stack.length + (room + 1) ≤ maxDepth)
    (ts : List Token) :
    run ⟨.array before :: stack, .separator⟩ (itemTokens items ++ ts) =
      (finish stack (.array (before.reverse ++ items))).bind (·.run ts) := by
  induction items generalizing before with
  | nil =>
      rw [List.append_nil]
      rfl
  | cons v items ih =>
      have here := each v List.mem_cons_self ⟨.array before :: stack, .value⟩
        (itemTokens items ++ ts) (.inl rfl) (by simp only [List.length_cons]; omega)
      have further := ih (fun w listed => each w (List.mem_cons_of_mem v listed)) (v :: before)
      rw [itemTokens, List.cons_append, List.append_assoc, run_cons]
      refine here.trans (further.trans ?_)
      rw [List.reverse_cons, List.append_assoc, List.singleton_append]

/-- The further members of an object, and its closing brace. -/
theorem run_memberTokens {room : Nat} {members : List (String × Json)}
    (each : ∀ m ∈ members, Takes room m.2) (before : List (String × Json)) {stack : List Frame}
    (deep : stack.length + (room + 1) ≤ maxDepth) (ts : List Token) :
    run ⟨.object before :: stack, .separator⟩ (memberTokens members ++ ts) =
      (finish stack (.object (before.reverse ++ members))).bind (·.run ts) := by
  induction members generalizing before with
  | nil =>
      rw [List.append_nil]
      rfl
  | cons m members ih =>
      obtain ⟨name, v⟩ := m
      have here := each (name, v) List.mem_cons_self ⟨.field before name :: stack, .value⟩
        (memberTokens members ++ ts) (.inl rfl) (by simp only [List.length_cons]; omega)
      have further := ih (fun n listed => each n (List.mem_cons_of_mem _ listed))
        ((name, v) :: before)
      simp only [memberTokens, List.cons_append, List.append_assoc]
      refine here.trans (further.trans ?_)
      rw [List.reverse_cons, List.append_assoc, List.singleton_append]

/-- A container is opened where there is room for it. -/
theorem enter_eq {room : Nat} {stack : List Frame} (deep : stack.length + (room + 1) ≤ maxDepth)
    (frame : Frame) (expect : Expect) :
    enter stack frame expect = some ⟨frame :: stack, expect⟩ :=
  if_pos (by omega)

end Machine

/-- The machine takes the tokens of a value for the value. -/
theorem Fits.takes {room : Nat} {v : Json} (fits : Fits room v) : Machine.Takes room v := by
  induction fits with
  | null => exact Machine.takes_token _ (by decide) rfl fun _ => rfl
  | bool b => exact Machine.takes_token _ (by simp) rfl fun _ => rfl
  | integer word => exact Machine.takes_token _ (by simp) rfl fun _ => rfl
  | string s => exact Machine.takes_token _ (by simp) rfl fun _ => rfl
  | @array room items each ih =>
      intro m ts awaits deep
      have opened : m.step .openBracket = some ⟨.array [] :: m.stack, .firstItem⟩ :=
        (Machine.step_of_value awaits (by decide)).trans (Machine.enter_eq deep _ _)
      cases items with
      | nil =>
          rw [tokens, List.cons_append, Machine.run_cons, opened]
          rfl
      | cons v items =>
          have here := ih v List.mem_cons_self ⟨.array [] :: m.stack, .firstItem⟩
            (itemTokens items ++ ts) (.inr rfl) (by simp only [List.length_cons]; omega)
          have further := Machine.run_itemTokens
            (fun w listed => ih w (List.mem_cons_of_mem v listed)) [v] deep ts
          rw [tokens, List.cons_append, Machine.run_cons, opened, List.append_assoc]
          exact here.trans further
  | @object room members each ih =>
      intro m ts awaits deep
      have opened : m.step .openBrace = some ⟨.object [] :: m.stack, .firstName⟩ :=
        (Machine.step_of_value awaits (by decide)).trans (Machine.enter_eq deep _ _)
      rcases members with _ | ⟨⟨name, v⟩, members⟩
      · rw [tokens, List.cons_append, Machine.run_cons, opened]
        rfl
      · have here := ih (name, v) List.mem_cons_self ⟨.field [] name :: m.stack, .value⟩
          (memberTokens members ++ ts) (.inl rfl) (by simp only [List.length_cons]; omega)
        have further := Machine.run_memberTokens
          (fun n listed => ih n (List.mem_cons_of_mem _ listed)) [(name, v)] deep ts
        simp only [tokens, List.cons_append, List.append_assoc]
        rw [Machine.run_cons, opened]
        exact here.trans further

/-! ## Texts -/

/-- A value is read from a text that is cut into its tokens. -/
theorem Fits.parse?_of_lexed {room : Nat} {v : Json} (fits : Fits room v) (few : room ≤ maxDepth)
    {text : String} (cut : Lexed text.toList (tokens v ++ [])) : parse? text = some v := by
  have taken := fits.takes .start [] (.inl rfl) (by simpa [Machine.start] using few)
  rw [parse?, cut.scan, Option.bind_some, taken]
  rfl

/-- A value is read from its pretty text, with blanks behind it or none. -/
theorem Fits.parse?_pretty {room : Nat} {v : Json} (fits : Fits room v) (few : room ≤ maxDepth)
    {blanks : String} (blank : ∀ c ∈ blanks.toList, isSpace c = true) :
    parse? (pretty v ++ blanks) = some v := by
  have empty : Lexed blanks.toList [] := by
    generalize blanks.toList = cs at blank
    induction cs with
    | nil => exact .nil
    | cons c cs ih =>
        exact .space (blank c List.mem_cons_self)
          (ih fun d found => blank d (List.mem_cons_of_mem c found))
  have ended : continuesNumber blanks.toList = false := by
    cases shape : blanks.toList with
    | nil => rfl
    | cons c cs =>
        have space := blank c (shape ▸ List.mem_cons_self)
        simp only [isSpace, Bool.or_eq_true, beq_iff_eq] at space
        rcases space with ((rfl | rfl) | rfl) | rfl <;> rfl
  have cut : Lexed (pretty v ++ blanks).toList (tokens v ++ []) := by
    rw [pretty, String.toList_append, String.toList_ofList]
    exact fits.isCut 0 ended empty
  exact fits.parse?_of_lexed few cut

end TraceAudit.Json
