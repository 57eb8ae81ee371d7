import TraceAudit.Proofs.Analysis.Batch
import TraceAudit.Proofs.Report.ClosedForm

/-!
# Runs line by line

What a line adds to a summary depends on the bytes of the line alone: not on its number, nor on the
lines around it. So a run over whole lines put one after the other takes the steps of each part, and
a run over the lines in another order takes the same steps in that order.
-/

namespace TraceAudit

open Delivery (lineFeed)
open Tally (Step)

/-- The step that an item of a trace makes. -/
def Item.step (rules : RuleSet) : Item → Step
  | .ok record => .record record.role (record.analyze rules)
  | .error _ => .unparsed

/-- A tally of items takes their steps. -/
theorem Tally.ofItems_eq_ofSteps (rules : RuleSet) (items : List Item) :
    ofItems rules items = ofSteps (items.map (Item.step rules)) := by
  have one (t : Tally) (item : Item) : t.addItem rules item = t.take (Item.step rules item) := by
    cases item <;> rfl
  rw [ofItems, ofSteps, List.foldl_map]
  exact congrArg (fun add => items.foldl add empty) (funext₂ one)

/-- The detections of the steps of some items are those of their records. -/
theorem Item.exists_record_of_mem_steps {rules : RuleSet} {items : List Item} {d : Detection}
    (raised : d ∈ ((items.map (Item.step rules)).map Step.detections).flatten) :
    ∃ record : Record, d ∈ (record.analyze rules).detections := by
  obtain ⟨_, listed, within⟩ := List.mem_flatten.1 raised
  obtain ⟨step, taken, rfl⟩ := List.mem_map.1 listed
  obtain ⟨item, _, rfl⟩ := List.mem_map.1 taken
  cases item with
  | ok record => exact ⟨record, within⟩
  | error fault => cases within

namespace Record

/-- The number of a line is kept in its record and decides nothing else. -/
theorem ofObject_eq_map (line other : Nat) (object : Json) :
    ofObject line object = (ofObject other object).map fun record => { record with line } := by
  unfold ofObject
  cases role? object with
  | none => rfl
  | some role =>
      by_cases known : role.isKnown = true
      · simp only [known, if_true]
        cases rawPayload? object role with
        | none => rfl
        | some raw =>
            dsimp only
            cases Payload.read role raw <;> rfl
      · simp only [if_neg known]
        rfl

/-- A line makes the same step under each number. -/
theorem step_ofLine (rules : RuleSet) (line other : Nat) (text : String) :
    Item.step rules (ofLine line text) = Item.step rules (ofLine other text) := by
  unfold ofLine
  cases Json.decode? text with
  | none => rfl
  | some value =>
      cases value with
      | object members =>
          dsimp only
          rw [ofObject_eq_map line other]
          cases ofObject other (.object members) <;> rfl
      | _ => rfl

end Record

namespace Trace

/-- The step that a line makes; none if it is blank. -/
def step? (rules : RuleSet) (bytes : Bytes) : Option Step :=
  ((LineContent.ofBytes bytes).item? 1).map (Item.step rules)

/-- The steps that the lines of an input make, in order. -/
def steps (rules : RuleSet) (input : Bytes) : List Step :=
  (lines input).filterMap (step? rules)

theorem step?_eq (rules : RuleSet) (line : Nat) (bytes : Bytes) :
    ((LineContent.ofBytes bytes).item? line).map (Item.step rules) = step? rules bytes := by
  unfold step?
  cases LineContent.ofBytes bytes with
  | blank => rfl
  | notUtf8 => rfl
  | text content => exact congrArg some (Record.step_ofLine rules line 1 content)

theorem map_step_itemsFrom (rules : RuleSet) (line : Nat) (rest : List Bytes) :
    (itemsFrom line rest).map (Item.step rules) = rest.filterMap (step? rules) := by
  induction rest generalizing line with
  | nil => rfl
  | cons bytes rest ih =>
      rw [itemsFrom, List.map_append, ih, ← Option.toList_map, step?_eq, List.filterMap_cons]
      cases step? rules bytes <;> rfl

/-- What is counted of an input is what its steps add up to. -/
theorem summary_eq_ofSteps (rules : RuleSet) (input : Bytes) :
    summary rules input = (Tally.ofSteps (steps rules input)).summary := by
  rw [summary, Tally.ofItems_eq_ofSteps, items, map_step_itemsFrom]
  rfl

/-- The lines that are not blank are those that make a step. -/
theorem length_steps (rules : RuleSet) (input : Bytes) :
    (steps rules input).length = nonBlankLines input := by
  rw [← length_items, items, steps, ← map_step_itemsFrom rules 0, List.length_map]

/-- The detections of the steps are those of the records. -/
theorem exists_record_of_mem_steps {rules : RuleSet} {input : Bytes} {d : Detection}
    (raised : d ∈ ((steps rules input).map Step.detections).flatten) :
    ∃ record : Record, d ∈ (record.analyze rules).detections := by
  rw [steps, ← map_step_itemsFrom rules 0] at raised
  exact Item.exists_record_of_mem_steps raised

/-! ## Whole lines -/

/-- An input that does not end within a line. -/
def IsWhole (input : Bytes) : Prop :=
  input = [] ∨ input.getLast? = some lineFeed

theorem lines_eq_nil {input : Bytes} (none_cut : lines input = []) : input = [] := by
  rw [← flatten_lines input, none_cut]
  rfl

/-- The lines of whole lines with more after them. -/
theorem lines_append {first : Bytes} (whole : IsWhole first) (second : Bytes) :
    lines (first ++ second) = lines first ++ lines second := by
  induction first with
  | nil => rfl
  | cons b rest ih =>
      rw [List.cons_append, lines, lines]
      cases rest with
      | nil =>
          have feed : b = lineFeed := by
            rcases whole with impossible | ended
            · cases impossible
            · exact Option.some.inj ended
          rw [if_pos feed, if_pos feed]
          rfl
      | cons c more =>
          have later : IsWhole (c :: more) := by
            rcases whole with impossible | ended
            · cases impossible
            · rw [List.getLast?_cons_cons] at ended
              exact .inr ended
          rw [ih later]
          cases cut : lines (c :: more) with
          | nil => exact absurd (lines_eq_nil cut) (List.cons_ne_nil c more)
          | cons line others =>
              split <;> rfl

/-- The steps of whole lines with more after them. -/
theorem steps_append (rules : RuleSet) {first : Bytes} (whole : IsWhole first) (second : Bytes) :
    steps rules (first ++ second) = steps rules first ++ steps rules second := by
  rw [steps, lines_append whole, List.filterMap_append]
  rfl

/-- Texts one after the other, each with a line feed after it. -/
def ofTexts (texts : List Bytes) : Bytes :=
  texts.flatMap (· ++ [lineFeed])

theorem isWhole_line (text : Bytes) : IsWhole (text ++ [lineFeed]) :=
  .inr List.getLast?_concat

theorem steps_ofTexts (rules : RuleSet) (texts : List Bytes) :
    steps rules (ofTexts texts) = texts.flatMap fun text => steps rules (text ++ [lineFeed]) := by
  induction texts with
  | nil => rfl
  | cons text rest ih =>
      rw [ofTexts, List.flatMap_cons, steps_append rules (isWhole_line text), List.flatMap_cons,
        ← ih]
      rfl

/-- Texts in another order make the same steps in another order. -/
theorem steps_perm (rules : RuleSet) {texts others : List Bytes} (perm : texts.Perm others) :
    (steps rules (ofTexts texts)).Perm (steps rules (ofTexts others)) := by
  rw [steps_ofTexts, steps_ofTexts]
  exact perm.flatMap_right _

end Trace
end TraceAudit
