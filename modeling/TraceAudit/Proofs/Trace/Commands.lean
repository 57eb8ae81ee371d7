import TraceAudit.Analysis.Record
import TraceAudit.Proofs.Rules.Merge
import TraceAudit.Proofs.Trace.Grammar

/-!
# Lines of commands

A line of a store gives a command under one of two names and may give its target under any of five.
The target is for the reader of a report only, but a line that gives several is refused, and the
command on it is not looked at. So a destructive command on a line is found exactly if the line
gives at most one target.
-/

namespace TraceAudit

namespace Command

/-- The names under which a command may be given. -/
def textNames : List String := ["command", "op"]

/-- The names under which its target may be given. -/
def targetNames : List String := ["target", "key", "bucket", "collection", "database"]

/-- An object that gives one command and some targets, all as texts. -/
structure GivenBy (payload : List (String × Json)) (text : String) (targets : List String) :
    Prop where
  text : Json.valuesUnder textNames payload = [.string text]
  targets : Json.valuesUnder targetNames payload = targets.map .string

namespace GivenBy

variable {payload : List (String × Json)} {text : String} {targets : List String}

theorem allows (given : GivenBy payload text targets) : shape.Allows payload := by
  apply apart_shape.allows_iff.2
  simp only [shape, List.forall_mem_cons]
  refine ⟨?_, ?_, List.forall_mem_nil _⟩
  · intro value there
    have isText : value ∈ [Json.string text] := given.text ▸ there
    rw [List.mem_singleton.1 isText]
    rfl
  · intro value there
    have isTarget : value ∈ targets.map Json.string := given.targets ▸ there
    obtain ⟨target, _, rfl⟩ := List.mem_map.1 isTarget
    rfl

/-- With one target at most, the command is given once. -/
theorem givenOnce (given : GivenBy payload text targets) (atMostOne : targets.length ≤ 1) :
    GivenOnce payload text (targets.head?.map some) where
  text := given.text
  target := by
    refine given.targets.trans ?_
    match targets, atMostOne with
    | [], _ => rfl
    | [target], _ => rfl

/-- A payload with one target at most is read as the command that it gives. -/
theorem read_of_length_le (given : GivenBy payload text targets) (atMostOne : targets.length ≤ 1)
    (store : Store) :
    Payload.read (.store store) (.object payload) = .ok (.command ⟨text, targets.head?⟩) := by
  have written : Payload.WrittenAs (.store store) (.object payload) _ :=
    .commandObject (given.givenOnce atMostOne)
  have joined : (targets.head?.map some).join = targets.head? := by
    cases targets.head? <;> rfl
  rw [joined] at written
  exact Payload.read_store_eq_ok_iff.2 written

/-- A payload with several targets is refused. -/
theorem read_of_two_le (given : GivenBy payload text targets) (several : 2 ≤ targets.length)
    (store : Store) :
    Payload.read (.store store) (.object payload) = .error (.duplicate "target") := by
  have oneText : (Json.valuesUnder textNames payload).length = 1 := congrArg List.length given.text
  have manyTargets : (Json.valuesUnder targetNames payload).length = targets.length :=
    (congrArg List.length given.targets).trans (List.length_map _)
  rcases Json.Shape.foldlM_addMember rfl given.allows [] List.nodup_nil with
    ⟨once, _⟩ | ⟨name, twice, failed⟩
  · rw [List.append_nil] at once
    have atMostOne := apart_shape.nodup_assigned_iff.1 once _ (.tail _ (.head _))
    exact absurd (manyTargets ▸ atMostOne) (Nat.not_le.2 several)
  · rw [List.append_nil] at twice
    have used : 0 < ((shape.assigned payload).map Prod.fst).count name := by omega
    obtain ⟨f, listed, rfl⟩ :=
      Json.Shape.exists_field_of_mem_assigned (List.count_pos_iff.1 used)
    rw [apart_shape.count_assigned listed] at twice
    rcases List.mem_cons.1 listed with rfl | rest
    · -- The command is given once.
      have contrary : 2 ≤ 1 := oneText ▸ twice
      exact absurd contrary (by decide)
    · obtain rfl := List.mem_singleton.1 rest
      rw [Payload.read, Json.Shape.read, Json.Shape.readMembers, failed]
      rfl

end GivenBy

end Command

/-! ## Whole lines -/

namespace Record

/-- A line that is a record of a store with an object for its payload. -/
def HoldsPayload (text : String) (store : Store) (payload : List (String × Json)) : Prop :=
  ∃ object tag, Json.decode? text = some object ∧
    object.member? "role" = some (.string tag) ∧ Text.trim tag = store.name ∧
    (object.member? "meta").bind (·.member? store.name) = some (.object payload)

/-- Reading such a line is reading the payload. -/
theorem ofLine_of_holdsPayload {text : String} {store : Store} {payload : List (String × Json)}
    (holds : HoldsPayload text store payload) (line : Nat) :
    ∃ traceId, ofLine line text =
      match Payload.read (.store store) (.object payload) with
      | .ok found => .ok ⟨line, traceId, .store store, found⟩
      | .error fault => .error ⟨line, .badPayload store.name fault⟩ := by
  obtain ⟨object, tag, decoded, named, trimmed, held⟩ := holds
  obtain ⟨members, rfl, named⟩ := Json.member?_eq_some_iff.1 named
  have names : Names members (Role.store store).tag :=
    ⟨tag, named, trimmed, by cases store <;> decide⟩
  have raw : rawPayload? (.object members) (.store store) = some (.object payload) := by
    rw [rawPayload?, Role.tag, held]
  refine ⟨traceId? (.object members), ?_⟩
  rw [ofLine_of_object decoded, ofObject_of_known names rfl, raw]
  dsimp only
  cases Payload.read (.store store) (.object payload) <;> rfl

end Record

/-- A command of the table on a line is found exactly if the line gives at most one target. A line
that gives several is refused, whatever the command on it. -/
theorem listed_command_found_iff {document : String} {rules : RuleSet}
    (accepted : RuleSet.ofToml document = .ok rules) {entry : CommandRule}
    (listed : entry ∈ rules.commands) {line : String} {store : Store}
    {payload : List (String × Json)} {text : String} {targets : List String}
    (holds : Record.HoldsPayload line store payload)
    (given : Command.GivenBy payload text targets)
    (about : entry.isAbout store (Command.operation ⟨text, none⟩) = true) (number : Nat) :
    ((∃ record, Record.ofLine number line = .ok record ∧
        record.analyze rules = .analyzed
          [⟨entry.rule, commandEvidence store entry targets.head?, some store.name⟩]) ↔
      targets.length ≤ 1) ∧
    (2 ≤ targets.length →
      Record.ofLine number line =
        .error ⟨number, .badPayload store.name (.duplicate "target")⟩) := by
  obtain ⟨traceId, read⟩ := Record.ofLine_of_holdsPayload holds number
  have refused (several : 2 ≤ targets.length) : Record.ofLine number line =
      .error ⟨number, .badPayload store.name (.duplicate "target")⟩ := by
    rw [read, given.read_of_two_le several]
  refine ⟨⟨fun ⟨record, held, _⟩ => ?_, fun atMostOne => ?_⟩, refused⟩
  · refine Nat.le_of_lt_succ (Nat.lt_of_not_le fun several => ?_)
    rw [refused several] at held
    cases held
  · rw [given.read_of_length_le atMostOne] at read
    refine ⟨_, read, ?_⟩
    have found : rules.command? store (Command.operation ⟨text, targets.head?⟩) = some entry :=
      (RuleSet.soundCommands_ofToml accepted).command?_eq_some_iff.2 ⟨listed, about⟩
    simp only [Record.analyze, Role.store?, checkCommand, found]

/-- The line of the deletion of a bucket that gives another text beside the bucket's name. -/
def deleteBucketLine (name : String) : String :=
  "\x7b\"role\":\"s3\",\"meta\":\x7b\"s3\":\x7b\"op\":\"s3:DeleteBucket\",\"bucket\":\"b\",\"" ++
    name ++ "\":\"k\"\x7d\x7d\x7d"

/-- The tokens of that line. -/
def deleteBucketTokens (name : String) : List Json.Token := [
  .openBrace, .string "role", .colon, .string "s3", .comma, .string "meta", .colon, .openBrace,
  .string "s3", .colon, .openBrace, .string "op", .colon, .string "s3:DeleteBucket", .comma,
  .string "bucket", .colon, .string "b", .comma, .string name, .colon, .string "k", .closeBrace,
  .closeBrace, .closeBrace]

/-- With the bucket's region on the line, the deletion is found. -/
theorem deleteBucket_found :
    ∃ record, Record.ofLine 1 (deleteBucketLine "region") = .ok record ∧
      record.analyze .builtin =
        .analyzed [⟨⟨"infra.bucket-delete", .blocker, "S3 bucket deletion: DeleteBucket",
          "Deny s3:DeleteBucket in the agent's IAM policy and enable versioning."⟩,
          "s3 DeleteBucket b", some "s3"⟩] := by
  have accepted : RuleSet.ofToml "" = .ok .builtin := by decide +kernel
  have listed : RuleSet.builtinCommands.getLast (by decide) ∈ RuleSet.builtin.commands :=
    List.getLast_mem _
  have scanned : Json.scan (deleteBucketLine "region") = some (deleteBucketTokens "region") := by
    decide +kernel
  have decoded : Json.decode? (deleteBucketLine "region") =
      some (.object [("meta", .object [("s3", .object [("bucket", .string "b"),
        ("op", .string "s3:DeleteBucket"), ("region", .string "k")])]),
        ("role", .string "s3")]) := by
    rw [Json.decode?, Json.parse?, scanned]
    cbv
  have holds : Record.HoldsPayload (deleteBucketLine "region") .s3
      [("bucket", .string "b"), ("op", .string "s3:DeleteBucket"), ("region", .string "k")] :=
    ⟨_, "s3", decoded, rfl, by decide +kernel, rfl⟩
  have given : Command.GivenBy
      [("bucket", .string "b"), ("op", .string "s3:DeleteBucket"), ("region", .string "k")]
      "s3:DeleteBucket" ["b"] := ⟨rfl, rfl⟩
  have found := (listed_command_found_iff accepted listed holds given (by decide +kernel) 1).1.2
    (by decide)
  exact found

/-- With the key of an object on the line, it is not, though the table names the command. -/
theorem deleteBucket_refused :
    RuleSet.ofToml "" = .ok .builtin ∧
      (∃ entry ∈ RuleSet.builtin.commands,
        entry.isAbout .s3 (Command.operation ⟨"s3:DeleteBucket", none⟩) = true) ∧
      ∃ payload, Record.HoldsPayload (deleteBucketLine "key") .s3 payload ∧
      Command.GivenBy payload "s3:DeleteBucket" ["b", "k"] ∧
      Record.ofLine 1 (deleteBucketLine "key") =
        .error ⟨1, .badPayload "s3" (.duplicate "target")⟩ := by
  have scanned : Json.scan (deleteBucketLine "key") = some (deleteBucketTokens "key") := by
    decide +kernel
  have decoded : Json.decode? (deleteBucketLine "key") =
      some (.object [("meta", .object [("s3", .object [("bucket", .string "b"),
        ("key", .string "k"), ("op", .string "s3:DeleteBucket")])]),
        ("role", .string "s3")]) := by
    rw [Json.decode?, Json.parse?, scanned]
    cbv
  have holds : Record.HoldsPayload (deleteBucketLine "key") .s3
      [("bucket", .string "b"), ("key", .string "k"), ("op", .string "s3:DeleteBucket")] :=
    ⟨_, "s3", decoded, rfl, by decide +kernel, rfl⟩
  have given : Command.GivenBy
      [("bucket", .string "b"), ("key", .string "k"), ("op", .string "s3:DeleteBucket")]
      "s3:DeleteBucket" ["b", "k"] := ⟨rfl, rfl⟩
  obtain ⟨traceId, read⟩ := Record.ofLine_of_holdsPayload holds 1
  refine ⟨by decide +kernel, by decide +kernel, _, holds, given, ?_⟩
  rw [read, given.read_of_two_le (by decide)]
  rfl

end TraceAudit
