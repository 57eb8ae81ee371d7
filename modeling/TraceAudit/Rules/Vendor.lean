import TraceAudit.Text.AsciiCase
import TraceAudit.Web.Domain

/-!
# Payment providers

A provider takes payments once only if each request carries a key that names the operation. A vendor
rule says which hosts and paths are a provider's and where it looks for that key.
-/

namespace TraceAudit

/-- Where a provider looks for the key. -/
inductive KeyLocation where
  | header
  | bodyField
  deriving DecidableEq, Repr

namespace KeyLocation

/-- The name of a location in rules files. -/
def name : KeyLocation → String
  | header => "header"
  | bodyField => "body_field"

/-- The location of a name. -/
def ofName? (s : String) : Option KeyLocation :=
  [header, bodyField].find? (·.name == s)

end KeyLocation

structure Vendor where
  provider : String
  /-- The registrable domains of the provider. -/
  domains : List String
  /-- What the paths of payments start with. -/
  pathStarts : List String
  location : KeyLocation
  keyName : String
  /-- Values that are as good as no key. -/
  placeholders : List String
  deriving DecidableEq, Repr

/-- What is wrong with a vendor rule. -/
inductive VendorFault where
  | noProvider
  | noDomains
  | notRegistrable (host : String)
  | badPathStarts
  | noKeyName
  deriving DecidableEq, Repr

/-- The wording of a fault. -/
def VendorFault.message : VendorFault → String
  | .noProvider => "provider_name is empty"
  | .noDomains => "host_allowlist must contain non-empty domains"
  | .notRegistrable host =>
      "host_allowlist entry '" ++ host ++ "' is not a registrable domain"
  | .badPathStarts => "path_prefixes must be non-empty and start with '/'"
  | .noKeyName => "key_name is empty"

namespace Vendor

/-- Whether a registrable domain is the provider's. -/
def allowsDomain (v : Vendor) (domain : String) : Bool :=
  v.domains.any (Text.sameIgnoringCase · domain)

/-- Whether a path is one for payments. -/
def coversPath (v : Vendor) (path : String) : Bool :=
  v.pathStarts.any fun start => start.toList.isPrefixOf path.toList

/-- Whether a value is as good as no key. -/
def isPlaceholder (v : Vendor) (value : String) : Bool :=
  let trimmed := Text.trim value
  trimmed.isEmpty ||
    v.placeholders.any fun p => Text.sameIgnoringCase (Text.trim p) trimmed

/-- A domain as the rule means it: without blanks around it and dots at its ends, in small
letters. -/
def plainDomain (domain : String) : String :=
  let trimmed := (Text.trimChars domain.toList).dropWhile (· == '.')
  String.ofList ((Web.withoutFinalDots trimmed).map Char.toLower)

/-- Whether a domain is its own registrable domain, as only such a one can ever match. -/
def isRegistrable (domain : String) : Bool :=
  Web.registrableDomain? domain == some domain

/-- The first thing that is wrong with a rule. -/
def fault? (v : Vendor) : Option VendorFault :=
  if Text.isBlankText v.provider then some .noProvider
  else if v.domains.isEmpty || v.domains.any Text.isBlankText then some .noDomains
  else
    match (v.domains.map plainDomain).find? (!isRegistrable ·) with
    | some host => some (.notRegistrable host)
    | none =>
        if v.pathStarts.isEmpty || v.pathStarts.any (·.toList.head? != some '/') then
          some .badPathStarts
        else if Text.isBlankText v.keyName then some .noKeyName
        else none

/-- The rule with its domains as it means them. -/
def normalized (v : Vendor) : Vendor :=
  { v with domains := v.domains.map plainDomain }

end Vendor
end TraceAudit
