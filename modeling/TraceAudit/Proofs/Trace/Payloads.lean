import TraceAudit.Proofs.Json.Readings
import TraceAudit.Trace.Record

/-!
# Payloads as they are written

A payload of a role that rules are about is written as an object or as an array. An object gives a
call, a query or a command under its names, and members of other names are passed over. An array
gives the same in a fixed order, and may end before what need not be given. Exactly the values that
are written so are read, and the payload that is read has what is written.
-/

namespace TraceAudit

open Json (orNull valuesUnder)
open Json.Field (fits_iff_of_needed fits_iff_of_optional)
open Json.FieldKind (allows_members_iff allows_textOrNull_iff allows_text_iff)
open Json.Shape (FitItems read_eq_ok_iff)

variable {found : Json.Fields} {members : List (String × Json)} {items : List Json}

/-- A value, but nothing for null. -/
def Json.unlessNull? : Json → Option Json
  | .null => none
  | value => some value

/-! ## Calls -/

namespace HttpCall

/-- The call with what is given of it. -/
def ofParts (method : Option String) (url : String) (headers : Option (List (String × Json)))
    (body : Option Json) : HttpCall where
  method := method.getD "GET"
  url := url
  headers := headers.getD []
  body := body.bind Json.unlessNull?

/-- An object gives a call with its address as a text, its method, if at all, as a text, its
headers, if at all, as an object, and any value or none for its body. -/
structure GivenBy (members : List (String × Json)) (method : Option String) (url : String)
    (headers : Option (List (String × Json))) (body : Option Json) : Prop where
  method : valuesUnder ["method"] members = (method.map Json.string).toList
  url : valuesUnder ["url"] members = [.string url]
  headers : valuesUnder ["headers"] members = (headers.map Json.object).toList
  body : valuesUnder ["body"] members = body.toList

/-- An array gives a call with its method, its address, its headers and its body, in this order. The
last two may be left out, and the headers only if the body is. -/
inductive ListedBy : List Json → Option String → String → Option (List (String × Json)) →
    Option Json → Prop where
  | short (method url : String) : ListedBy [.string method, .string url] method url none none
  | headers (method url : String) (headers : List (String × Json)) :
      ListedBy [.string method, .string url, .object headers] method url headers none
  | body (method url : String) (headers : List (String × Json)) (body : Json) :
      ListedBy [.string method, .string url, .object headers, body] method url headers body

variable {method : Option String} {url : String} {headers : Option (List (String × Json))}
  {body : Option Json}

theorem ofFields_of_lookup (at_method : found.lookup "method" = method.map Json.string)
    (at_url : found.lookup "url" = some (.string url))
    (at_headers : found.lookup "headers" = headers.map Json.object)
    (at_body : found.lookup "body" = body) : ofFields found = ofParts method url headers body := by
  rw [ofFields, Json.Fields.text?, Json.Fields.text?, Json.Fields.members, Json.Fields.value?,
    at_method, at_url, at_headers, at_body, ofParts]
  congr 1
  · cases method <;> rfl
  · cases headers <;> rfl
  · match body with
    | none => rfl
    | some value => cases value <;> rfl

theorem apart_shape : shape.Apart := by
  unfold Json.Shape.Apart
  decide

theorem GivenBy.ofFields_assigned (given : GivenBy members method url headers body) :
    ofFields (shape.assigned members).reverse = ofParts method url headers body := by
  apply ofFields_of_lookup
  · exact apart_shape.lookup_assigned (f := ⟨"method", [], .text, .nowhere⟩) (by decide)
      given.method
  · exact apart_shape.lookup_assigned (f := ⟨"url", [], .text, .everywhere⟩) (by decide) given.url
  · exact apart_shape.lookup_assigned (f := ⟨"headers", [], .members, .nowhere⟩) (by decide)
      given.headers
  · exact apart_shape.lookup_assigned (f := ⟨"body", [], .any, .nowhere⟩) (by decide) given.body

/-- The objects that are read are those that give a call. -/
theorem readMembers_eq_ok_iff :
    shape.readMembers members = .ok found ↔
      (∃ method url headers body, GivenBy members method url headers body) ∧
        found = (shape.assigned members).reverse := by
  rw [apart_shape.readMembers_eq_ok_iff rfl]
  refine and_congr_left fun _ => ?_
  simp only [shape, List.forall_mem_cons]
  constructor
  · rintro ⟨⟨_, method, atMethod⟩, ⟨_, url, atUrl⟩, ⟨_, headers, atHeaders⟩, ⟨_, body, _⟩, _⟩
    obtain ⟨_, rfl⟩ := (fits_iff_of_optional (by decide) allows_text_iff).1 atMethod
    obtain ⟨_, rfl⟩ := (fits_iff_of_needed rfl allows_text_iff).1 atUrl
    obtain ⟨_, rfl⟩ := (fits_iff_of_optional (by decide) allows_members_iff).1 atHeaders
    exact ⟨_, _, _, _, method, url, headers, body⟩
  · rintro ⟨method, url, headers, body, given⟩
    have anyBody : (⟨"body", [], .any, .nowhere⟩ : Json.Field).Fits body := by
      cases body with
      | none => exact .absent (by decide)
      | some value => exact .given rfl
    exact ⟨⟨_, given.method, (fits_iff_of_optional (by decide) allows_text_iff).2 ⟨_, rfl⟩⟩,
      ⟨some (.string url), given.url, (fits_iff_of_needed rfl allows_text_iff).2 ⟨_, rfl⟩⟩,
      ⟨_, given.headers, (fits_iff_of_optional (by decide) allows_members_iff).2 ⟨_, rfl⟩⟩,
      ⟨_, given.body, anyBody⟩, List.forall_mem_nil _⟩

/-- Items that fit give a call. -/
theorem exists_listedBy (fit : FitItems shape.fields items found) :
    ∃ method url headers body, ListedBy items method url headers body ∧
      ofFields found.reverse = ofParts method url headers body := by
  unfold shape at fit
  cases fit with
  | ended optional => exact absurd (optional _ (.tail _ (.head _))) (by decide)
  | item atMethod fit =>
      obtain ⟨method, rfl⟩ := allows_text_iff.1 atMethod
      cases fit with
      | ended optional => exact absurd (optional _ (.head _)) (by decide)
      | item atUrl fit =>
          obtain ⟨url, rfl⟩ := allows_text_iff.1 atUrl
          cases fit with
          | ended => exact ⟨_, _, _, _, .short method url, ofFields_of_lookup rfl rfl rfl rfl⟩
          | item atHeaders fit =>
              obtain ⟨headers, rfl⟩ := allows_members_iff.1 atHeaders
              cases fit with
              | ended =>
                  exact ⟨_, _, _, _, .headers method url headers,
                    ofFields_of_lookup rfl rfl rfl rfl⟩
              | item _ fit =>
                  cases fit
                  exact ⟨_, _, _, _, .body method url headers _,
                    ofFields_of_lookup rfl rfl rfl rfl⟩

/-- Items that give a call fit. -/
theorem ListedBy.exists_fit (listed : ListedBy items method url headers body) :
    ∃ found, FitItems shape.fields items found ∧
      ofFields found.reverse = ofParts method url headers body := by
  cases listed with
  | short method url =>
      exact ⟨_, .item rfl (.item rfl (.ended (by decide))), ofFields_of_lookup rfl rfl rfl rfl⟩
  | headers method url headers =>
      exact ⟨_, .item rfl (.item rfl (.item rfl (.ended (by decide)))),
        ofFields_of_lookup rfl rfl rfl rfl⟩
  | body method url headers body =>
      exact ⟨_, .item rfl (.item rfl (.item rfl (.item rfl (.ended (by decide))))),
        ofFields_of_lookup rfl rfl rfl rfl⟩

end HttpCall

/-! ## Queries -/

namespace Payload

theorem apart_queryShape : queryShape.Apart :=
  List.pairwise_singleton _ _

/-- The objects that are read are those that give one query. -/
theorem readMembers_queryShape_eq_ok_iff :
    queryShape.readMembers members = .ok found ↔
      (∃ query, valuesUnder ["query", "sql"] members = [.string query]) ∧
        found = (queryShape.assigned members).reverse := by
  rw [apart_queryShape.readMembers_eq_ok_iff rfl]
  refine and_congr_left fun _ => ?_
  simp only [queryShape, List.forall_mem_singleton]
  constructor
  · rintro ⟨_, values, fits⟩
    obtain ⟨query, rfl⟩ := (fits_iff_of_needed rfl allows_text_iff).1 fits
    exact ⟨query, values⟩
  · rintro ⟨query, values⟩
    exact ⟨some (.string query), values, (fits_iff_of_needed rfl allows_text_iff).2 ⟨query, rfl⟩⟩

theorem text?_assigned_queryShape {query : String}
    (given : valuesUnder ["query", "sql"] members = [.string query]) :
    Json.Fields.text? (queryShape.assigned members).reverse "query" = some query := by
  have one : valuesUnder ["query", "sql"] members = (some (Json.string query)).toList := given
  rw [Json.Fields.text?, apart_queryShape.lookup_assigned
    (f := ⟨"query", ["sql"], .text, .everywhere⟩) (by decide) one]

theorem fitItems_queryShape_iff :
    FitItems queryShape.fields items found ↔
      ∃ query, items = [.string query] ∧ found = [("query", .string query)] := by
  constructor
  · intro fit
    unfold queryShape at fit
    cases fit with
    | ended optional => exact absurd (optional _ (.head _)) (by decide)
    | item atQuery fit =>
        obtain ⟨query, rfl⟩ := allows_text_iff.1 atQuery
        cases fit
        exact ⟨query, rfl, rfl⟩
  · rintro ⟨query, rfl, rfl⟩
    exact .item rfl (.ended (by decide))

end Payload

/-! ## Commands -/

namespace Command

/-- An object gives a command as one text, and its target, if at all, as one text or null. -/
structure GivenOnce (members : List (String × Json)) (text : String)
    (target : Option (Option String)) : Prop where
  text : valuesUnder ["command", "op"] members = [.string text]
  target : valuesUnder ["target", "key", "bucket", "collection", "database"] members =
    (target.map orNull).toList

/-- An array gives a command and then, if at all, its target. -/
inductive ListedBy : List Json → String → Option (Option String) → Prop where
  | short (text : String) : ListedBy [.string text] text none
  | target (text : String) (target : Option String) :
      ListedBy [.string text, orNull target] text (some target)

variable {text : String} {target : Option (Option String)}

theorem ofFields_of_lookup (at_text : found.lookup "command" = some (.string text))
    (at_target : found.lookup "target" = target.map orNull) :
    ofFields found = ⟨text, target.join⟩ := by
  rw [ofFields, Json.Fields.text?, Json.Fields.text?, at_text, at_target]
  congr 1
  match target with
  | none => rfl
  | some none => rfl
  | some (some name) => rfl

theorem apart_shape : shape.Apart := by
  unfold Json.Shape.Apart
  decide

theorem GivenOnce.ofFields_assigned (given : GivenOnce members text target) :
    ofFields (shape.assigned members).reverse = ⟨text, target.join⟩ := by
  apply ofFields_of_lookup
  · exact apart_shape.lookup_assigned (f := ⟨"command", ["op"], .text, .everywhere⟩) (by decide)
      given.text
  · exact apart_shape.lookup_assigned
      (f := ⟨"target", ["key", "bucket", "collection", "database"], .textOrNull, .nowhere⟩)
      (by decide) given.target

/-- The objects that are read are those that give one command. -/
theorem readMembers_eq_ok_iff :
    shape.readMembers members = .ok found ↔
      (∃ text target, GivenOnce members text target) ∧
        found = (shape.assigned members).reverse := by
  rw [apart_shape.readMembers_eq_ok_iff rfl]
  refine and_congr_left fun _ => ?_
  simp only [shape, List.forall_mem_cons]
  constructor
  · rintro ⟨⟨_, text, atText⟩, ⟨_, target, atTarget⟩, _⟩
    obtain ⟨_, rfl⟩ := (fits_iff_of_needed rfl allows_text_iff).1 atText
    obtain ⟨_, rfl⟩ := (fits_iff_of_optional (by decide) allows_textOrNull_iff).1 atTarget
    exact ⟨_, _, text, target⟩
  · rintro ⟨text, target, given⟩
    exact ⟨⟨some (.string text), given.text,
        (fits_iff_of_needed rfl allows_text_iff).2 ⟨_, rfl⟩⟩,
      ⟨_, given.target, (fits_iff_of_optional (by decide) allows_textOrNull_iff).2 ⟨_, rfl⟩⟩,
      List.forall_mem_nil _⟩

/-- Items that fit give a command. -/
theorem exists_listedBy (fit : FitItems shape.fields items found) :
    ∃ text target, ListedBy items text target ∧
      ofFields found.reverse = ⟨text, target.join⟩ := by
  unfold shape at fit
  cases fit with
  | ended optional => exact absurd (optional _ (.head _)) (by decide)
  | item atText fit =>
      obtain ⟨text, rfl⟩ := allows_text_iff.1 atText
      cases fit with
      | ended => exact ⟨_, _, .short text, ofFields_of_lookup rfl rfl⟩
      | item atTarget fit =>
          obtain ⟨target, rfl⟩ := allows_textOrNull_iff.1 atTarget
          cases fit
          exact ⟨_, _, .target text target, ofFields_of_lookup rfl rfl⟩

/-- Items that give a command fit. -/
theorem ListedBy.exists_fit (listed : ListedBy items text target) :
    ∃ found, FitItems shape.fields items found ∧
      ofFields found.reverse = ⟨text, target.join⟩ := by
  cases listed with
  | short text => exact ⟨_, .item rfl (.ended (by decide)), ofFields_of_lookup rfl rfl⟩
  | target text target =>
      have allowed : Json.FieldKind.textOrNull.allows (orNull target) = true :=
        allows_textOrNull_iff.2 ⟨target, rfl⟩
      exact ⟨_, .item rfl (.item allowed (.ended (by decide))), ofFields_of_lookup rfl rfl⟩

end Command

/-! ## All payloads -/

namespace Payload

/-- A value is a way to write a payload of a role. -/
inductive WrittenAs : Role → Json → Payload → Prop where
  | callObject {members : List (String × Json)} {method : Option String} {url : String}
      {headers : Option (List (String × Json))} {body : Option Json}
      (given : HttpCall.GivenBy members method url headers body) :
      WrittenAs .http (.object members) (.http (.ofParts method url headers body))
  | callArray {items : List Json} {method : Option String} {url : String}
      {headers : Option (List (String × Json))} {body : Option Json}
      (listed : HttpCall.ListedBy items method url headers body) :
      WrittenAs .http (.array items) (.http (.ofParts method url headers body))
  | queryObject {members : List (String × Json)} {query : String}
      (given : valuesUnder ["query", "sql"] members = [.string query]) :
      WrittenAs .sql (.object members) (.sql query)
  | queryArray (query : String) : WrittenAs .sql (.array [.string query]) (.sql query)
  | commandObject {store : Store} {members : List (String × Json)} {text : String}
      {target : Option (Option String)} (given : Command.GivenOnce members text target) :
      WrittenAs (.store store) (.object members) (.command ⟨text, target.join⟩)
  | commandArray {store : Store} {items : List Json} {text : String}
      {target : Option (Option String)} (listed : Command.ListedBy items text target) :
      WrittenAs (.store store) (.array items) (.command ⟨text, target.join⟩)

variable {value : Json} {payload : Payload}

/-- Only payloads of roles that rules are about are written. -/
theorem WrittenAs.isKnown {role : Role} (written : WrittenAs role value payload) :
    role.isKnown = true := by
  cases written <;> rfl

theorem read_http_eq_ok_iff :
    Payload.read .http value = .ok payload ↔ WrittenAs .http value payload := by
  refine bind_eq_ok_iff.trans ?_
  constructor
  · rintro ⟨found, read, made⟩
    cases made
    rcases read_eq_ok_iff.1 read with ⟨members, rfl, read⟩ | ⟨items, found, rfl, fit, rfl⟩
    · obtain ⟨⟨_, _, _, _, given⟩, rfl⟩ := HttpCall.readMembers_eq_ok_iff.1 read
      rw [given.ofFields_assigned]
      exact .callObject given
    · obtain ⟨_, _, _, _, listed, made⟩ := HttpCall.exists_listedBy fit
      rw [made]
      exact .callArray listed
  · intro written
    cases written with
    | callObject given =>
        have read := HttpCall.readMembers_eq_ok_iff.2 ⟨⟨_, _, _, _, given⟩, rfl⟩
        rw [← given.ofFields_assigned]
        exact ⟨_, read, rfl⟩
    | callArray listed =>
        obtain ⟨found, fit, made⟩ := listed.exists_fit
        rw [← made]
        exact ⟨_, read_eq_ok_iff.2 (.inr ⟨_, _, rfl, fit, rfl⟩), rfl⟩

theorem read_sql_eq_ok_iff :
    Payload.read .sql value = .ok payload ↔ WrittenAs .sql value payload := by
  refine bind_eq_ok_iff.trans ?_
  constructor
  · rintro ⟨found, read, made⟩
    cases made
    rcases read_eq_ok_iff.1 read with ⟨members, rfl, read⟩ | ⟨items, found, rfl, fit, rfl⟩
    · obtain ⟨⟨query, given⟩, rfl⟩ := readMembers_queryShape_eq_ok_iff.1 read
      rw [text?_assigned_queryShape given]
      exact .queryObject given
    · obtain ⟨query, rfl, rfl⟩ := fitItems_queryShape_iff.1 fit
      exact .queryArray query
  · intro written
    cases written with
    | queryObject given =>
        refine ⟨_, readMembers_queryShape_eq_ok_iff.2 ⟨⟨_, given⟩, rfl⟩, ?_⟩
        rw [text?_assigned_queryShape given]
        rfl
    | queryArray query =>
        have fit := fitItems_queryShape_iff.2 ⟨query, rfl, rfl⟩
        exact ⟨_, read_eq_ok_iff.2 (.inr ⟨_, _, rfl, fit, rfl⟩), rfl⟩

theorem read_store_eq_ok_iff {store : Store} :
    Payload.read (.store store) value = .ok payload ↔ WrittenAs (.store store) value payload := by
  refine bind_eq_ok_iff.trans ?_
  constructor
  · rintro ⟨found, read, made⟩
    cases made
    rcases read_eq_ok_iff.1 read with ⟨members, rfl, read⟩ | ⟨items, found, rfl, fit, rfl⟩
    · obtain ⟨⟨_, _, given⟩, rfl⟩ := Command.readMembers_eq_ok_iff.1 read
      rw [given.ofFields_assigned]
      exact .commandObject given
    · obtain ⟨_, _, listed, made⟩ := Command.exists_listedBy fit
      rw [made]
      exact .commandArray listed
  · intro written
    cases written with
    | commandObject given =>
        have read := Command.readMembers_eq_ok_iff.2 ⟨⟨_, _, given⟩, rfl⟩
        rw [← given.ofFields_assigned]
        exact ⟨_, read, rfl⟩
    | commandArray listed =>
        obtain ⟨found, fit, made⟩ := listed.exists_fit
        rw [← made]
        exact ⟨_, read_eq_ok_iff.2 (.inr ⟨_, _, rfl, fit, rfl⟩), rfl⟩

/-- A value is read as a payload exactly if it is a way to write it. -/
theorem read_eq_ok_iff_writtenAs {role : Role} (known : role.isKnown = true) :
    Payload.read role value = .ok payload ↔ WrittenAs role value payload := by
  cases role with
  | http => exact read_http_eq_ok_iff
  | sql => exact read_sql_eq_ok_iff
  | store store => exact read_store_eq_ok_iff
  | other tag => cases known

end Payload
end TraceAudit
