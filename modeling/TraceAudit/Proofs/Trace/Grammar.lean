import Mathlib.Data.List.TakeWhile
import TraceAudit.Proofs.Analysis.Outcomes
import TraceAudit.Proofs.Trace.Payloads

/-!
# Lines as they are written

A line holds a record exactly if it is written as one: it is an object with a role, and what the
object gives for a role that rules are about is a payload of that role. Nothing else is asked of a
line of another role. A line that is not written so fails, with the first thing that is wrong.
-/

namespace TraceAudit

/-! ## Texts and roles -/

namespace Text

/-- Nothing is left of a text without the blanks at its ends exactly if it holds blanks only. -/
theorem trim_eq_empty_iff {s : String} : trim s = "" ↔ isBlankText s = true := by
  have ends : trim s = "" ↔ (dropBlanks s.toList).reverse.dropWhile isBlank = [] := by
    rw [trim, String.ofList_eq_empty_iff, trimChars, dropEndWhile, List.reverse_eq_nil_iff]
  have start : isBlankText s = true ↔ dropBlanks s.toList = [] := by
    rw [isBlankText, List.all_eq_true, dropBlanks, List.dropWhile_eq_nil_iff]
  rw [ends, start]
  constructor
  · intro gone
    by_contra kept
    have first := List.dropWhile_get_zero_not isBlank s.toList (List.length_pos_of_ne_nil kept)
    exact first (List.dropWhile_eq_nil_iff.1 gone _ (List.mem_reverse.2 (List.get_mem _ _)))
  · intro gone
    rw [gone]
    rfl

end Text

namespace Json

theorem unlessNull?_eq_some_iff {value kept : Json} :
    value.unlessNull? = some kept ↔ value = kept ∧ kept ≠ .null := by
  constructor
  · intro given
    cases value <;> cases given <;> exact ⟨rfl, nofun⟩
  · rintro ⟨rfl, notNull⟩
    cases value <;> first | rfl | exact absurd rfl notNull

theorem member?_eq_some_iff {value given : Json} {name : String} :
    value.member? name = some given ↔
      ∃ members, value = .object members ∧ members.lookup name = some given := by
  constructor
  · intro found
    cases value with
    | object members => exact ⟨members, rfl, found⟩
    | null => cases found
    | bool b => cases found
    | number n => cases found
    | string s => cases found
    | array items => cases found
  · rintro ⟨members, rfl, found⟩
    exact found

end Json

namespace Role

/-- The tags of the roles that rules are about. -/
def knownTags : List String := ["http", "sql", "redis", "mongo", "s3"]

theorem ofTag_tag {role : Role} (known : role.isKnown = true) : ofTag role.tag = role := by
  cases role with
  | http => rfl
  | sql => rfl
  | store s => cases s <;> rfl
  | other tag => cases known

theorem isKnown_ofTag_iff {tag : String} : (ofTag tag).isKnown = true ↔ tag ∈ knownTags := by
  constructor
  · intro known
    have listed : ∀ role : Role, role.isKnown = true → role.tag ∈ knownTags := by
      intro role known
      cases role with
      | http => decide
      | sql => decide
      | store s => cases s <;> decide
      | other tag => cases known
    rw [← tag_ofTag tag]
    exact listed _ known
  · have all : ∀ tag ∈ knownTags, (ofTag tag).isKnown = true := by decide
    exact all tag

theorem ofTag_of_not_mem {tag : String} (unknown : tag ∉ knownTags) : ofTag tag = .other tag := by
  have tagged := tag_ofTag tag
  cases role : ofTag tag with
  | other found =>
      rw [role] at tagged
      exact congrArg Role.other tagged
  | http => exact absurd (isKnown_ofTag_iff.1 (role ▸ rfl)) unknown
  | sql => exact absurd (isKnown_ofTag_iff.1 (role ▸ rfl)) unknown
  | store s => exact absurd (isKnown_ofTag_iff.1 (role ▸ rfl)) unknown

end Role

namespace Record

variable {line : Nat} {text tag : String} {members : List (String × Json)} {role : Role}
  {value : Json}

/-- The members give a role: a text that is not blank, with this tag between the blanks at its
ends. -/
def Names (members : List (String × Json)) (tag : String) : Prop :=
  ∃ written, members.lookup "role" = some (.string written) ∧ Text.trim written = tag ∧ tag ≠ ""

/-- The members give a value, other than null, under a tag among those of `meta`. -/
def Gives (members : List (String × Json)) (tag : String) (value : Json) : Prop :=
  ∃ inner, members.lookup "meta" = some (.object inner) ∧ inner.lookup tag = some value ∧
    value ≠ .null

/-- The records that a line holds. -/
inductive HeldBy (line : Nat) (text : String) : Record → Prop where
  | uncovered {members : List (String × Json)} {tag : String}
      (isObject : Json.decode? text = some (.object members)) (names : Names members tag)
      (unknown : tag ∉ Role.knownTags) :
      HeldBy line text ⟨line, traceId? (.object members), .other tag, .uncovered⟩
  | covered {members : List (String × Json)} {role : Role} {value : Json} {payload : Payload}
      (isObject : Json.decode? text = some (.object members)) (names : Names members role.tag)
      (gives : Gives members role.tag value) (written : Payload.WrittenAs role value payload) :
      HeldBy line text ⟨line, traceId? (.object members), role, payload⟩

/-- The first thing that is wrong with a line. -/
inductive FailsWith (text : String) : LineFault → Prop where
  | notJson (unread : Json.decode? text = none) : FailsWith text .notJson
  | notAnObject {value : Json} (read : Json.decode? text = some value)
      (otherwise : ∀ members, value ≠ .object members) : FailsWith text .notAnObject
  | noRole {members : List (String × Json)}
      (isObject : Json.decode? text = some (.object members))
      (unnamed : ∀ tag, ¬ Names members tag) : FailsWith text .noRole
  | noPayload {members : List (String × Json)} {role : Role}
      (isObject : Json.decode? text = some (.object members)) (names : Names members role.tag)
      (known : role.isKnown = true) (missing : ∀ value, ¬ Gives members role.tag value) :
      FailsWith text (.noPayload role.tag)
  | badPayload {members : List (String × Json)} {role : Role} {value : Json}
      {fault : Json.ShapeFault} (isObject : Json.decode? text = some (.object members))
      (names : Names members role.tag) (known : role.isKnown = true)
      (gives : Gives members role.tag value)
      (unwritten : ∀ payload, ¬ Payload.WrittenAs role value payload)
      (refused : Payload.read role value = .error fault) :
      FailsWith text (.badPayload role.tag fault)

theorem role?_eq_some_iff :
    role? (.object members) = some role ↔ ∃ tag, Names members tag ∧ Role.ofTag tag = role := by
  rw [role?, Json.member?]
  constructor
  · intro found
    split at found
    · rename_i written named
      split at found
      · cases found
      · rename_i visible
        have left : Text.trim written ≠ "" := mt Text.trim_eq_empty_iff.1 visible
        exact ⟨_, ⟨written, named, rfl, left⟩, Option.some.inj found⟩
    · cases found
  · rintro ⟨_, ⟨written, named, rfl, left⟩, rfl⟩
    rw [named]
    exact if_neg (mt Text.trim_eq_empty_iff.2 left)

theorem role?_eq_none_iff : role? (.object members) = none ↔ ∀ tag, ¬ Names members tag := by
  rw [Option.eq_none_iff_forall_ne_some]
  constructor
  · intro none_found tag names
    exact none_found _ (role?_eq_some_iff.2 ⟨tag, names, rfl⟩)
  · intro unnamed role found
    obtain ⟨tag, names, _⟩ := role?_eq_some_iff.1 found
    exact unnamed tag names

theorem rawPayload?_eq_bind (record : Json) (role : Role) :
    rawPayload? record role =
      ((record.member? "meta").bind (·.member? role.tag)).bind Json.unlessNull? := by
  rw [rawPayload?]
  cases (record.member? "meta").bind (·.member? role.tag) with
  | none => rfl
  | some value => cases value <;> rfl

theorem rawPayload?_eq_some_iff :
    rawPayload? (.object members) role = some value ↔ Gives members role.tag value := by
  rw [rawPayload?_eq_bind, Option.bind_eq_some_iff]
  constructor
  · rintro ⟨_, found, kept⟩
    obtain ⟨rfl, notNull⟩ := Json.unlessNull?_eq_some_iff.1 kept
    obtain ⟨_, isMeta, given⟩ := Option.bind_eq_some_iff.1 found
    obtain ⟨inner, rfl, given⟩ := Json.member?_eq_some_iff.1 given
    exact ⟨inner, isMeta, given, notNull⟩
  · rintro ⟨inner, isMeta, given, notNull⟩
    exact ⟨value, Option.bind_eq_some_iff.2 ⟨_, isMeta, given⟩,
      Json.unlessNull?_eq_some_iff.2 ⟨rfl, notNull⟩⟩

theorem rawPayload?_eq_none_iff :
    rawPayload? (.object members) role = none ↔ ∀ value, ¬ Gives members role.tag value := by
  rw [Option.eq_none_iff_forall_ne_some]
  exact forall_congr' fun _ => not_congr rawPayload?_eq_some_iff

/-! ## Lines that hold a record -/

theorem ofLine_of_object (isObject : Json.decode? text = some (.object members)) :
    ofLine line text = (ofObject line (.object members)).mapError (⟨line, ·⟩) := by
  rw [ofLine, isObject]

/-- The record of an object with a role that rules are about. -/
theorem ofObject_of_known (names : Names members role.tag) (known : role.isKnown = true) :
    ofObject line (.object members) =
      match rawPayload? (.object members) role with
      | none => .error (.noPayload role.tag)
      | some raw =>
          match Payload.read role raw with
          | .error fault => .error (.badPayload role.tag fault)
          | .ok payload => .ok ⟨line, traceId? (.object members), role, payload⟩ := by
  have named : role? (.object members) = some role :=
    role?_eq_some_iff.2 ⟨_, names, Role.ofTag_tag known⟩
  rw [ofObject, named]
  dsimp only
  rw [if_pos known]
  cases rawPayload? (.object members) role with
  | none => rfl
  | some raw => rfl

/-- A record that a line holds is the one that is read. -/
theorem HeldBy.ofLine_eq {record : Record} (held : HeldBy line text record) :
    ofLine line text = .ok record := by
  cases held with
  | @uncovered members tag isObject names unknown =>
      have named : role? (.object members) = some (.other tag) :=
        role?_eq_some_iff.2 ⟨tag, names, Role.ofTag_of_not_mem unknown⟩
      rw [ofLine_of_object isObject, ofObject, named]
      rfl
  | covered isObject names gives written =>
      have known := written.isKnown
      rw [ofLine_of_object isObject, ofObject_of_known names known,
        rawPayload?_eq_some_iff.2 gives]
      dsimp only
      rw [(Payload.read_eq_ok_iff_writtenAs known).2 written]
      rfl

/-- The first thing that is wrong with a line is the error. -/
theorem FailsWith.ofLine_eq {fault : LineFault} (fails : FailsWith text fault) :
    ofLine line text = .error ⟨line, fault⟩ := by
  cases fails with
  | notJson unread =>
      rw [ofLine, unread]
      rfl
  | @notAnObject value read otherwise =>
      rw [ofLine, read]
      cases value with
      | object members => exact absurd rfl (otherwise members)
      | null => rfl
      | bool b => rfl
      | number n => rfl
      | string s => rfl
      | array items => rfl
  | noRole isObject unnamed =>
      rw [ofLine_of_object isObject, ofObject, role?_eq_none_iff.2 unnamed]
      rfl
  | noPayload isObject names known missing =>
      rw [ofLine_of_object isObject, ofObject_of_known names known,
        rawPayload?_eq_none_iff.2 missing]
      rfl
  | badPayload isObject names known gives _ refused =>
      rw [ofLine_of_object isObject, ofObject_of_known names known,
        rawPayload?_eq_some_iff.2 gives]
      dsimp only
      rw [refused]
      rfl

/-- A line holds a record or something is wrong with it. -/
theorem heldBy_or_failsWith (line : Nat) (text : String) :
    (∃ record, HeldBy line text record) ∨ ∃ fault, FailsWith text fault := by
  cases read : Json.decode? text with
  | none => exact .inr ⟨_, .notJson read⟩
  | some value =>
      by_cases isObject : ∃ members, value = .object members
      · obtain ⟨members, rfl⟩ := isObject
        by_cases named : ∃ tag, Names members tag
        · obtain ⟨tag, names⟩ := named
          by_cases listed : tag ∈ Role.knownTags
          · have known := Role.isKnown_ofTag_iff.2 listed
            rw [← Role.tag_ofTag tag] at names
            by_cases given : ∃ value, Gives members (Role.ofTag tag).tag value
            · obtain ⟨value, gives⟩ := given
              cases found : Payload.read (Role.ofTag tag) value with
              | ok payload =>
                  have written := (Payload.read_eq_ok_iff_writtenAs known).1 found
                  exact .inl ⟨_, .covered read names gives written⟩
              | error fault =>
                  refine .inr ⟨_, .badPayload read names known gives ?_ found⟩
                  intro payload written
                  cases found.symm.trans ((Payload.read_eq_ok_iff_writtenAs known).2 written)
            · exact .inr ⟨_, .noPayload read names known (not_exists.1 given)⟩
          · exact .inl ⟨_, .uncovered read names listed⟩
        · exact .inr ⟨_, .noRole read (not_exists.1 named)⟩
      · exact .inr ⟨_, .notAnObject read (not_exists.1 isObject)⟩

/-- A line is read as a record exactly if it holds it, and it fails with an error exactly if that is
the first thing that is wrong with the line. The payload of a record is one of its role. -/
theorem ofLine_iff_grammar (line : Nat) (text : String) :
    (∀ record, ofLine line text = .ok record ↔ HeldBy line text record) ∧
      (∀ e, ofLine line text = .error e ↔ e.line = line ∧ FailsWith text e.fault) ∧
      ∀ record, HeldBy line text record → Payload.OfRole record.role record.payload := by
  refine ⟨?_, ?_, ?_⟩
  · intro record
    constructor
    · intro read
      rcases heldBy_or_failsWith line text with ⟨other, held⟩ | ⟨fault, fails⟩
      · cases read.symm.trans held.ofLine_eq
        exact held
      · cases read.symm.trans fails.ofLine_eq
    · exact HeldBy.ofLine_eq
  · intro e
    constructor
    · intro failed
      rcases heldBy_or_failsWith line text with ⟨record, held⟩ | ⟨fault, fails⟩
      · cases failed.symm.trans held.ofLine_eq
      · have told : ofLine line text = .error ⟨line, fault⟩ := fails.ofLine_eq
        cases failed.symm.trans told
        exact ⟨rfl, fails⟩
    · rintro ⟨rfl, fails⟩
      exact fails.ofLine_eq
  · intro record held
    exact ofRole_ofLine held.ofLine_eq

/-- A line with blanks about its role, whose call is an array. -/
def arrayLine : String :=
  "\x7b\"role\":\" http\\t\",\"meta\":\x7b\"http\":[\"POST\",\"https://x.io/\"]\x7d\x7d"

/-- A line that gives its query under both names. -/
def twoQueriesLine : String :=
  "\x7b\"role\":\"sql\",\"meta\":\x7b\"sql\":\x7b\"query\":\"q\",\"sql\":\"q\"\x7d\x7d\x7d"

/-- The first holds a record, and the second fails. -/
theorem lines_ofLine :
    ofLine 7 arrayLine = .ok ⟨7, none, .http, .http ⟨"POST", "https://x.io/", [], none⟩⟩ ∧
      Payload.OfRole .http (.http ⟨"POST", "https://x.io/", [], none⟩) ∧
      ofLine 8 twoQueriesLine = .error ⟨8, .badPayload "sql" (.duplicate "query")⟩ := by
  have decoded : Json.decode? arrayLine = some (.object [
      ("meta", .object [("http", .array [.string "POST", .string "https://x.io/"])]),
      ("role", .string " http\t")]) := by
    have scanned : Json.scan arrayLine = some [.openBrace, .string "role", .colon,
        .string " http\t", .comma, .string "meta", .colon, .openBrace, .string "http", .colon,
        .openBracket, .string "POST", .comma, .string "https://x.io/", .closeBracket, .closeBrace,
        .closeBrace] := by decide +kernel
    rw [Json.decode?, Json.parse?, scanned]
    cbv
  have held : HeldBy 7 arrayLine
      ⟨7, none, .http, .http ⟨"POST", "https://x.io/", [], none⟩⟩ :=
    .covered decoded ⟨_, rfl, by decide +kernel, by decide⟩ ⟨_, rfl, rfl, nofun⟩
      (.callArray (.short "POST" "https://x.io/"))
  have also_decoded : Json.decode? twoQueriesLine = some (.object [
      ("meta", .object [("sql", .object [("query", .string "q"), ("sql", .string "q")])]),
      ("role", .string "sql")]) := by
    have scanned : Json.scan twoQueriesLine = some [.openBrace, .string "role", .colon,
        .string "sql", .comma, .string "meta", .colon, .openBrace, .string "sql", .colon,
        .openBrace, .string "query", .colon, .string "q", .comma, .string "sql", .colon,
        .string "q", .closeBrace, .closeBrace, .closeBrace] := by decide +kernel
    rw [Json.decode?, Json.parse?, scanned]
    cbv
  have unwritten : ∀ payload, ¬ Payload.WrittenAs .sql
      (.object [("query", .string "q"), ("sql", .string "q")]) payload := by
    intro payload written
    cases written with
    | queryObject given => cases given
  have named : Names [("meta", .object [("sql", .object [("query", .string "q"),
      ("sql", .string "q")])]), ("role", .string "sql")] Role.sql.tag :=
    ⟨_, rfl, by decide +kernel, by decide⟩
  have fails : FailsWith twoQueriesLine (.badPayload "sql" (.duplicate "query")) :=
    .badPayload also_decoded named rfl ⟨_, rfl, rfl, nofun⟩ unwritten rfl
  obtain ⟨holds, _, fits⟩ := ofLine_iff_grammar 7 arrayLine
  obtain ⟨_, fails_iff, _⟩ := ofLine_iff_grammar 8 twoQueriesLine
  exact ⟨(holds _).2 held, fits _ held, (fails_iff _).2 ⟨rfl, fails⟩⟩

end Record
end TraceAudit
