/-!
# Roles

The role of a record says which system the recorded action went to.
-/

namespace TraceAudit

/-- A data store that takes commands. -/
inductive Store where
  | redis
  | mongo
  | s3
  deriving DecidableEq, Repr

namespace Store

/-- All stores. -/
def all : List Store := [redis, mongo, s3]

/-- The name of a store in traces, rules and reports. -/
def name : Store → String
  | redis => "redis"
  | mongo => "mongo"
  | s3 => "s3"

/-- The store of a name. -/
def ofName? (s : String) : Option Store :=
  all.find? (·.name == s)

@[simp] theorem ofName?_name (s : Store) : ofName? s.name = some s := by
  cases s <;> decide

end Store

inductive Role where
  | http
  | sql
  | store (s : Store)
  /-- A role that no rule is about, by its tag. -/
  | other (tag : String)
  deriving DecidableEq, Repr

namespace Role

/-- The role of a tag. -/
def ofTag (tag : String) : Role :=
  if tag = "http" then .http
  else if tag = "sql" then .sql
  else
    match Store.ofName? tag with
    | some s => .store s
    | none => .other tag

/-- The tag of a role. -/
def tag : Role → String
  | .http => "http"
  | .sql => "sql"
  | .store s => s.name
  | .other tag => tag

/-- The store that a role is about. -/
def store? : Role → Option Store
  | .store s => some s
  | _ => none

/-- Whether some rule may be about the role. -/
def isKnown : Role → Bool
  | .other _ => false
  | _ => true

/-- A role is found again by its tag. -/
theorem tag_ofTag (tag : String) : (ofTag tag).tag = tag := by
  unfold ofTag
  split
  · simp [Role.tag, *]
  · split
    · simp [Role.tag, *]
    · split
      · rename_i s h
        have := List.find?_some (l := Store.all) h
        simpa [Role.tag] using this
      · rfl

end Role
end TraceAudit
