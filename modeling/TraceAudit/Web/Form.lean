import TraceAudit.Text.Cut
import TraceAudit.Web.Percent

/-!
# Forms

Names and values as a form sends them in one text: pairs with ampersands between them, a plus sign
for a space, and all else percent encoded.
-/

namespace TraceAudit.Web.Form

/-- A name or a value with its encoding undone. -/
def decodePart (part : List Char) : String :=
  let spaced := part.map fun c => if c = '+' then ' ' else c
  Text.decodeUtf8Lenient (percentDecode (Text.encodeUtf8 (String.ofList spaced)))

/-- The name and the value of a pair. A pair without an equals sign has an empty value. -/
def pair (cs : List Char) : String × String :=
  let (name, value) := Text.cutAt (· == '=') cs
  (decodePart name, decodePart (value.getD []))

/-- The pairs of a form, empty ones left out. -/
def pairs (form : String) : List (String × String) :=
  ((Text.pieces (· == '&') form.toList).filter (!·.isEmpty)).map pair

/-- The first value of a name. -/
def value? (form name : String) : Option String :=
  (pairs form).lookup name

end TraceAudit.Web.Form
