import TraceAudit.Proofs.Analysis.Attribution
import TraceAudit.Proofs.Json.TextObjects
import TraceAudit.Proofs.Web.Forms

/-!
# Fields of bodies

A body gives fields as an object, as the text of an object or as a form. However fields are written,
the same is found under each name, and so a payment is judged alike.
-/

namespace TraceAudit

open Json (textMembers)

/-- What a body gives under a name: an object and the text of an object what their member has as a
text, and any other text the first value under the name in the form that it is. -/
inductive Json.GivesField (name : String) : Json → String → Prop where
  | object {members : List (String × Json)} {value : Json}
      (given : members.lookup name = some value) :
      GivesField name (.object members) value.scalarText
  | text {text : String} {members : List (String × Json)} {value : Json}
      (read : Json.decode? text = some (.object members))
      (given : members.lookup name = some value) :
      GivesField name (.string text) value.scalarText
  | form {text value : String} (other : ∀ members, Json.decode? text ≠ some (.object members))
      (given : (Web.Form.pairs text).lookup name = some value) :
      GivesField name (.string text) value

theorem memberText?_eq_some_iff {members : List (String × Json)} {name text : String} :
    (Json.object members).memberText? name = some text ↔
      ∃ value, members.lookup name = some value ∧ value.scalarText = text :=
  Option.map_eq_some_iff

/-- The field that is found in a body is the one that the body gives. -/
theorem bodyField?_eq_some_iff {body : Json} {name text : String} :
    bodyField? body name = some text ↔ body.GivesField name text := by
  constructor
  · intro found
    unfold bodyField? at found
    split at found
    · obtain ⟨value, given, rfl⟩ := memberText?_eq_some_iff.1 found
      exact .object given
    · split at found
      · rename_i read
        obtain ⟨value, given, rfl⟩ := memberText?_eq_some_iff.1 found
        exact .text read given
      · rename_i other
        exact .form other found
    · cases found
  · intro gives
    cases gives with
    | object given => exact memberText?_eq_some_iff.2 ⟨_, given, rfl⟩
    | text read given =>
        rw [bodyField?, read]
        exact memberText?_eq_some_iff.2 ⟨_, given, rfl⟩
    | form other given =>
        rw [bodyField?]
        split
        · rename_i read
          exact absurd read (other _)
        · exact given

/-! ## Ways to write fields -/

/-- A body that writes fields, in any order: as an object, as the text of that object, or as a
form. -/
inductive Json.WritesFields (fields : List (String × String)) : Json → Prop where
  | object {ordered : List (String × String)} (order : ordered.Perm fields) :
      WritesFields fields (.object (textMembers ordered))
  | text {ordered : List (String × String)} (order : ordered.Perm fields) :
      WritesFields fields (.string (Json.compact (.object (textMembers ordered))))
  | form {ordered : List (String × String)} (order : ordered.Perm fields) :
      WritesFields fields (.string (Web.Form.write ordered))

/-- The text of an object of texts is read as data with the same members. -/
theorem decode?_compact_textMembers (fields : List (String × String)) :
    Json.decode? (Json.compact (.object (textMembers fields))) =
      some (.object (Json.canonicalMembers [] (textMembers fields))) := by
  rw [Json.decode?, Json.parse?_compact_textMembers, Option.map_some, Json.canonical]

/-- A form is not the text of an object. -/
theorem decode?_write_ne_object (fields : List (String × String)) (members : List (String × Json)) :
    Json.decode? (Web.Form.write fields) ≠ some (.object members) := by
  intro read
  obtain ⟨written, parsed, same⟩ := Option.map_eq_some_iff.1 read
  have plain : ∀ c ∈ (Web.Form.write fields).toList.head?,
      Json.isSpace c = false ∧ c ≠ '{' ∧ c ≠ '[' := by
    intro c first
    rcases Web.Form.of_mem_write (List.mem_of_mem_head? first) with rfl | rfl | part
    · decide
    · decide
    · exact Text.ascii_induction
        (motive := fun c => Web.Form.IsPartChar c →
          Json.isSpace c = false ∧ c ≠ '{' ∧ c ≠ '[')
        (by decide) part.ascii part
  cases written with
  | object inner => exact Json.parse?_ne_object plain inner parsed
  | null | bool _ | number _ | string _ | array _ => cases same

/-- Each way to write fields with distinct names gives them, and gives nothing else. -/
theorem Json.WritesFields.bodyField?_eq {fields : List (String × String)} {body : Json}
    (writes : body.WritesFields fields) (distinct : (fields.map Prod.fst).Nodup) (name : String) :
    bodyField? body name = fields.lookup name := by
  have once {ordered : List (String × String)} (order : ordered.Perm fields) :
      (ordered.map Prod.fst).Nodup :=
    (order.map Prod.fst).nodup_iff.2 distinct
  have texts (field : Option String) :
      (field.map Json.string).map Json.scalarText = field := by
    cases field <;> rfl
  cases writes with
  | @object ordered order =>
      have member : bodyField? (.object (textMembers ordered)) name =
          ((textMembers ordered).lookup name).map Json.scalarText := rfl
      rw [member, Json.lookup_textMembers, texts, Json.lookup_perm order (once order)]
  | @text ordered order =>
      have names : ((textMembers ordered).map Prod.fst).Nodup := by
        rw [textMembers, List.map_map]
        exact once order
      have canonical (field : Option String) :
          (field.map Json.string).map Json.canonical = field.map Json.string := by
        cases field <;> rfl
      have member (members : List (String × Json)) :
          (Json.object members).memberText? name = (members.lookup name).map Json.scalarText := rfl
      rw [bodyField?, decode?_compact_textMembers]
      dsimp only
      rw [member, Json.lookup_canonicalMembers names, Json.lookup_textMembers, canonical,
        List.lookup_nil, Option.or_none, texts, Json.lookup_perm order (once order)]
  | @form ordered order =>
      rw [← Json.lookup_perm order (once order), bodyField?]
      split
      · rename_i read
        exact absurd read (decode?_write_ne_object ordered _)
      · rw [Web.Form.value?, Web.Form.pairs_write]

/-- The body of a call matters by the fields that it gives only. -/
theorem checkPayment_congr_body {a b : Json} (same : ∀ name, bodyField? a name = bodyField? b name)
    (call : HttpCall) (rules : RuleSet) :
    checkPayment { call with body := some a } rules =
      checkPayment { call with body := some b } rules := by
  have values (v : Vendor) : HttpCall.keyValues { call with body := some a } v =
      HttpCall.keyValues { call with body := some b } v := by
    unfold HttpCall.keyValues
    cases v.location with
    | header => rfl
    | bodyField => exact congrArg Option.toList (same v.keyName)
  have vendor_calls (v : Vendor) (path : String) :
      checkVendorCall { call with body := some a } v path =
        checkVendorCall { call with body := some b } v path := by
    have scope : HttpCall.isMutating { call with body := some a } =
        HttpCall.isMutating { call with body := some b } := rfl
    have detection (sent : List String) : paymentDetection { call with body := some a } v sent =
        paymentDetection { call with body := some b } v sent := rfl
    simp only [checkVendorCall, values, scope, detection]
  have address : { call with body := some b }.url = { call with body := some a }.url := rfl
  exact checkPayment_related (motive := Eq) rfl address fun target v _ => vendor_calls v target.path

/-- However fields with distinct names are written in a body, the same is found in it under each
name, and every call with it has the same outcome. -/
theorem same_outcome_of_writesFields {fields : List (String × String)}
    (distinct : (fields.map Prod.fst).Nodup) {a b : Json} (first : a.WritesFields fields)
    (second : b.WritesFields fields) :
    (∀ name, bodyField? a name = fields.lookup name ∧ bodyField? b name = fields.lookup name) ∧
      ∀ (call : HttpCall) (rules : RuleSet),
        checkPayment { call with body := some a } rules =
          checkPayment { call with body := some b } rules := by
  have found := fun name => first.bodyField?_eq distinct name
  have also_found := fun name => second.bodyField?_eq distinct name
  exact ⟨fun name => ⟨found name, also_found name⟩, fun call rules =>
    checkPayment_congr_body (fun name => (found name).trans (also_found name).symm) call rules⟩

/-- Fields that need encoding: one with a value like a form, and one without a name and with a value
like an object. -/
def awkwardFields : List (String × String) :=
  [("idempotency_key", "a=1&b=%41+\"ü\""), ("", "\x7b\"idempotency_key\": 1\x7d")]

/-- They are found alike in the text of an object and in a form in another order. -/
theorem awkwardFields_same :
    (awkwardFields.map Prod.fst).Nodup ∧
    bodyField? (.string (Json.compact (.object (textMembers awkwardFields)))) "idempotency_key" =
      some "a=1&b=%41+\"ü\"" ∧
    bodyField? (.string (Web.Form.write awkwardFields.reverse)) "idempotency_key" =
      some "a=1&b=%41+\"ü\"" ∧
    ∀ (call : HttpCall) (rules : RuleSet),
      checkPayment { call with
          body := some (.string (Json.compact (.object (textMembers awkwardFields)))) } rules =
        checkPayment { call with
          body := some (.string (Web.Form.write awkwardFields.reverse)) } rules := by
  have distinct : (awkwardFields.map Prod.fst).Nodup := by decide
  obtain ⟨found, judged⟩ := same_outcome_of_writesFields distinct (.text (.refl _))
    (.form (List.reverse_perm awkwardFields))
  obtain ⟨in_object, in_form⟩ := found "idempotency_key"
  exact ⟨distinct, in_object, in_form, judged⟩

end TraceAudit
