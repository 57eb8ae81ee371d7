import TraceAudit.Text.Blank
import TraceAudit.Web.Address
import TraceAudit.Web.PublicSuffix

/-!
# Registrable domains

Hosts are compared by registrable domain: `api.shop.com` and `files.shop.com` both belong to
`shop.com`, while `shop.com.evil.com` belongs to `evil.com`. An address stands for itself.
-/

namespace TraceAudit.Web

/-- A text without the dots at its end. -/
def withoutFinalDots (cs : List Char) : List Char :=
  Text.dropEndWhile (· == '.') cs

/-- A host without blanks around it and dots after it, in small letters. -/
def plainHost (host : List Char) : List Char :=
  (withoutFinalDots (Text.trimChars host)).map Char.toLower

/-- Whether a text is a network address. -/
def isAddress (cs : List Char) : Bool :=
  IPv4.isPlain cs || IPv6.isPlain cs

/-- The registrable domain of a host; none for a public suffix or a single label. -/
def registrableDomain? (host : String) : Option String :=
  let plain := plainHost host.toList
  if plain.isEmpty then none
  else if isAddress plain then some (String.ofList plain)
  else (PublicSuffix.registrable? plain).map String.ofList

end TraceAudit.Web
