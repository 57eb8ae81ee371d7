import TraceAudit.Rules.CommandRule
import TraceAudit.Rules.Vendor

/-!
# Rule sets

The tables that records are checked against. A rules file adds to the tables that come with the
library or takes their place: an entry replaces the one with its key, in its place, and other
entries are appended. The key of a vendor is its name, and that of a command its store and its name
without regard to case.
-/

namespace TraceAudit

structure RuleSet where
  vendors : List Vendor
  commands : List CommandRule
  deriving DecidableEq, Repr

/-- What a rules file says. -/
structure RulesFile where
  /-- Whether the tables of the library are left out. -/
  replacesBuiltin : Bool
  vendors : List Vendor
  commands : List CommandRule
  deriving DecidableEq, Repr

/-- Why there are no rules. -/
inductive RulesError where
  | read (path reason : String)
  /-- The document is no TOML or is no rules file. What the reader objects to is not kept. -/
  | parse
  | vendor (provider : String) (fault : VendorFault)
  | command (name : String) (fault : CommandFault)
  deriving DecidableEq, Repr

/-- The wording of an error. -/
def RulesError.message : RulesError → String
  | .read path reason => "failed to read rules file " ++ path ++ ": " ++ reason
  | .parse => "failed to parse rules file"
  | .vendor provider fault => "invalid vendor rule '" ++ provider ++ "': " ++ fault.message
  | .command name fault => "invalid destructive command '" ++ name ++ "': " ++ fault.message

namespace RuleSet

/-- Values that stand where a key should be. -/
def commonPlaceholders : List String :=
  ["test", "none", "null", "undefined", "placeholder", "changeme", "xxx", "idempotency-key"]

/-- The payment providers that come with the library. -/
def builtinVendors : List Vendor := [
  { provider := "stripe"
    domains := ["stripe.com"]
    pathStarts := ["/v1/"]
    location := .header
    keyName := "Idempotency-Key"
    placeholders := commonPlaceholders },
  { provider := "paypal"
    domains := ["paypal.com"]
    pathStarts := ["/v1/", "/v2/"]
    location := .header
    keyName := "PayPal-Request-Id"
    placeholders := commonPlaceholders },
  { provider := "square"
    domains := ["squareup.com", "squareupsandbox.com"]
    pathStarts := ["/v2/"]
    location := .bodyField
    keyName := "idempotency_key"
    placeholders := commonPlaceholders },
  { provider := "adyen"
    domains := ["adyen.com", "adyenpayments.com"]
    pathStarts := ["/v", "/checkout/"]
    location := .header
    keyName := "Idempotency-Key"
    placeholders := commonPlaceholders }]

/-- The destructive commands that come with the library. -/
def builtinCommands : List CommandRule := [
  { store := .redis
    command := "FLUSHALL"
    category := "infra.cache-flush-all"
    severity := .blocker
    title := "Redis cache wipe: FLUSHALL"
    remediation := "Delete specific keys or use key expiry instead of wiping every database." },
  { store := .redis
    command := "FLUSHDB"
    category := "infra.cache-flush-db"
    severity := .blocker
    title := "Redis cache wipe: FLUSHDB"
    remediation := "Delete specific keys or use key expiry instead of wiping the database." },
  { store := .mongo
    command := "dropDatabase"
    category := "infra.database-drop"
    severity := .blocker
    title := "MongoDB destructive operation: dropDatabase"
    remediation := "Remove the dropDatabase privilege from the agent's role." },
  { store := .s3
    command := "DeleteBucket"
    category := "infra.bucket-delete"
    severity := .blocker
    title := "S3 bucket deletion: DeleteBucket"
    remediation := "Deny s3:DeleteBucket in the agent's IAM policy and enable versioning." }]

/-- The tables that come with the library. -/
def builtin : RuleSet := ⟨builtinVendors, builtinCommands⟩

/-- No tables. -/
def empty : RuleSet := ⟨[], []⟩

/-- The vendor of a registrable domain, the first of several. -/
def vendor? (r : RuleSet) (domain : String) : Option Vendor :=
  r.vendors.find? (·.allowsDomain domain)

/-- The rule about a command of a store. -/
def command? (r : RuleSet) (store : Store) (command : String) : Option CommandRule :=
  r.commands.find? (·.isAbout store command)

/-- Puts an entry in the place of the first one that it replaces, or else at the end. -/
def put {α : Type} (replaces : α → α → Bool) (entry : α) : List α → List α
  | [] => [entry]
  | old :: rest => if replaces entry old then entry :: rest else old :: put replaces entry rest

/-- Adds a vendor. -/
def putVendor (r : RuleSet) (v : Vendor) : RuleSet :=
  { r with vendors := put (·.provider == ·.provider) v r.vendors }

/-- Adds a command. -/
def putCommand (r : RuleSet) (c : CommandRule) : RuleSet :=
  { r with commands := put (fun new old => old.isAbout new.store new.command) c r.commands }

/-- Adds a vendor of a rules file, if nothing is wrong with it. -/
def addVendor (r : RuleSet) (v : Vendor) : Except RulesError RuleSet :=
  match v.fault? with
  | some fault => .error (.vendor v.provider fault)
  | none => .ok (r.putVendor v.normalized)

/-- Adds a command of a rules file, if nothing is wrong with it. -/
def addCommand (r : RuleSet) (c : CommandRule) : Except RulesError RuleSet :=
  match c.fault? with
  | some fault => .error (.command c.command fault)
  | none => .ok (r.putCommand c)

/-- The rules of a file: its vendors in order, and then its commands, over the tables that it does
not replace. The first entry with a fault makes it void. -/
def ofFile (file : RulesFile) : Except RulesError RuleSet := do
  let base := if file.replacesBuiltin then empty else builtin
  let withVendors ← file.vendors.foldlM addVendor base
  file.commands.foldlM addCommand withVendors

end RuleSet
end TraceAudit
