import TraceAudit.Web.Domain
import TraceAudit.Web.Idna
import TraceAudit.Web.Percent

/-!
# Request targets

The host and the path to which a URL sends a request. A URL that cannot be read and a URL without a
host have no target. User names, ports, queries and fragments are passed over and never become part
of a host.
-/

namespace TraceAudit.Web

/-- The kinds of schemes: each has its own way to write hosts and paths. -/
inductive SchemeKind where
  /-- A scheme of the web: backslashes are slashes, and there is always a host. -/
  | web
  /-- Files, whose host may be left out and whose path may start with a drive. -/
  | file
  /-- Any other scheme. -/
  | other
  deriving DecidableEq, Repr

inductive Host where
  | name (text : List Char)
  | ipv4 (address : Nat)
  | ipv6 (groups : List Nat)
  deriving DecidableEq, Repr

structure Target where
  host : String
  /-- The registrable domain of the host. -/
  registrable : Option String
  path : String
  deriving DecidableEq, Repr

namespace SchemeKind

def ofScheme (scheme : List Char) : SchemeKind :=
  if ["http", "https", "ws", "wss", "ftp"].contains (String.ofList scheme) then .web
  else if scheme = "file".toList then .file
  else .other

/-- Whether a character is a slash. -/
def isSlash (kind : SchemeKind) (c : Char) : Bool :=
  c == '/' || (c == '\\' && kind != .other)

/-- Whether a character ends the part of a URL that names the host. -/
def endsAuthority (kind : SchemeKind) (c : Char) : Bool :=
  kind.isSlash c || c == '?' || c == '#'

end SchemeKind

/-! ## Hosts -/

namespace Host

/-- The text of a host. -/
def text : Host → List Char
  | .name text => text.map Char.toLower
  | .ipv4 address => IPv4.text address
  | .ipv6 groups => IPv6.text groups

/-- A host in brackets. -/
def bracketed? (cs : List Char) : Option Host :=
  if cs.getLast? = some ']' then (IPv6.ofText? (cs.drop 1).dropLast).map .ipv6 else none

/-- The characters that no host of any scheme holds. -/
def isForbidden (c : Char) : Bool :=
  c.toNat == 0 || "\t\n\r #/:<>?@[\\]^|".toList.contains c

/-- Whether a character is a control. -/
def isControl (c : Char) : Bool :=
  c.toNat < 32 || c.toNat == 127

/-- The host of a URL of the web or of a file: an address, or a name in ASCII. -/
def ofWeb? (cs : List Char) : Option Host := do
  if cs.head? = some '[' then bracketed? cs
  else
    let bytes := percentDecode (Text.encodeUtf8 (String.ofList cs))
    let ascii ← Idna.toAscii? (Text.decodeUtf8Lenient bytes).toList
    if ascii.isEmpty then none
    else if IPv4.endsInNumber ascii then (IPv4.ofHost? ascii).map .ipv4
    else return .name ascii

/-- The host of any other URL, which is kept as it is. -/
def ofOther? (cs : List Char) : Option Host :=
  if cs.head? = some '[' then bracketed? cs
  else if cs.isEmpty || cs.any isForbidden then none
  else some (.name (percentEncode isControl cs))

end Host

/-! ## The parts of a URL -/

/-- The text of a URL without controls and spaces around it, and without tabs and line breaks. -/
def cleanUrl (cs : List Char) : List Char :=
  let isEdge := fun c : Char => c.toNat ≤ 32
  (Text.dropEndWhile isEdge (cs.dropWhile isEdge)).filter fun c =>
    !(c == '\t' || c == '\n' || c == '\r')

/-- The scheme of a URL, in small letters, and what follows its colon. -/
def scheme? (cs : List Char) : Option (List Char × List Char) :=
  match Text.cutAt (· == ':') cs with
  | (c :: rest, some after) =>
      if c.isAlpha && rest.all fun d => d.isAlphanum || d == '+' || d == '-' || d == '.' then
        some ((c :: rest).map Char.toLower, after)
      else none
  | _ => none

/-- What follows the last at sign, or all. -/
def withoutUser (authority : List Char) : List Char :=
  (authority.reverse.takeWhile (· != '@')).reverse

/-- The part before the first colon that is in no brackets, and what follows that colon. -/
def cutAtPort (inBrackets : Bool) : List Char → List Char × Option (List Char)
  | [] => ([], none)
  | c :: rest =>
      if c = ':' ∧ inBrackets = false then ([], some rest)
      else
        let inside := if c = '[' then true else if c = ']' then false else inBrackets
        let (host, port) := cutAtPort inside rest
        (c :: host, port)

/-- What follows the digits of a port; none if the port is too big or ends in something else. In a
URL of another scheme a backslash may end it and begin the path. -/
def afterPort? (kind : SchemeKind) (port : List Char) : Option (List Char) :=
  let digits := port.takeWhile Char.isDigit
  let rest := port.dropWhile Char.isDigit
  if (number? 10 digits).any (65535 < ·) then none
  else if rest.isEmpty || (kind == .other && rest.head? == some '\\') then some rest
  else none

/-! ## Paths -/

/-- The characters that a path holds only when they are encoded. -/
def isEncodedInPath (c : Char) : Bool :=
  Host.isControl c || " \"<>`#?\x7b\x7d".toList.contains c

/-- A segment with its encoded dots decoded, to compare it by. -/
def plainDots : List Char → List Char
  | '%' :: '2' :: 'e' :: rest => '.' :: plainDots rest
  | '%' :: '2' :: 'E' :: rest => '.' :: plainDots rest
  | c :: rest => c :: plainDots rest
  | [] => []

/-- Whether a segment names a drive. -/
def isDrive : List Char → Bool
  | [letter, mark] => letter.isAlpha && (mark == ':' || mark == '|')
  | _ => false

/-- Takes away the last segment, given last first, unless it names a drive. -/
def parent : List (List Char) → List (List Char)
  | [] => []
  | last :: rest => if isDrive last then last :: rest else rest

/-- Follows segments from those given last first: one dot stays, two dots go to the parent. A path
that ends so ends in a slash. -/
def follow (done : List (List Char)) : List (List Char) → List (List Char)
  | [] => done.reverse
  | segment :: rest =>
      let dots := plainDots segment
      if dots = ['.', '.'] then
        follow (if rest.isEmpty then [] :: parent done else parent done) rest
      else if dots = ['.'] then follow (if rest.isEmpty then [] :: done else done) rest
      else follow (segment :: done) rest

/-- The segments of the text of a path after its first slash. -/
def segments (kind : SchemeKind) (cs : List Char) : List (List Char) :=
  follow [] ((Text.pieces kind.isSlash cs).map (percentEncode isEncodedInPath))

/-- The path of a URL, from the text that follows the host. -/
def pathOf (kind : SchemeKind) (cs : List Char) : List Char :=
  let text := cs.takeWhile fun c => !(c == '?' || c == '#')
  match text with
  | [] => if kind == .other then [] else ['/']
  | c :: rest =>
      let after := if kind.isSlash c then rest else c :: rest
      let path := '/' :: Text.joined '/' (segments kind after)
      if kind == .file then '/' :: path.dropWhile (· == '/') else path

/-! ## Targets -/

namespace Target

/-- The target of a host and a path. -/
def ofParts (host : Host) (path : List Char) : Target :=
  let text := String.ofList host.text
  ⟨text, registrableDomain? text, String.ofList path⟩

/-- The target of a URL whose host begins the text, after the slashes before it. -/
def ofAuthority? (kind : SchemeKind) (cs : List Char) : Option Target := do
  let authority := cs.takeWhile (!kind.endsAuthority ·)
  let after := cs.dropWhile (!kind.endsAuthority ·)
  let (hostText, port) := cutAtPort false (withoutUser authority)
  let host ← match kind with
    | .other => Host.ofOther? hostText
    | _ => Host.ofWeb? hostText
  let rest ← match port with
    | none => some []
    | some port => afterPort? kind port
  return ofParts host (pathOf kind (rest ++ after))

/-- The target of the URL of a file on another host. This host, under the name `localhost`, is as
good as none, and so is a host before the name of a drive. -/
def ofFile? (cs : List Char) : Option Target := do
  let hostText := cs.takeWhile (!SchemeKind.file.endsAuthority ·)
  let after := cs.dropWhile (!SchemeKind.file.endsAuthority ·)
  if isDrive hostText || hostText.isEmpty then none
  else
    let host ← Host.ofWeb? hostText
    let path := (after.takeWhile fun c => !(c == '?' || c == '#')).drop 1
    let first := (Text.pieces SchemeKind.file.isSlash path).headD []
    if host == .name "localhost".toList || isDrive first then none
    else return ofParts host (pathOf .file after)

/-- The target of a URL. -/
def ofUrl? (url : String) : Option Target := do
  let (scheme, rest) ← scheme? (cleanUrl (Text.trimChars url.toList))
  let kind := SchemeKind.ofScheme scheme
  match kind with
  | .web => ofAuthority? kind (rest.dropWhile kind.isSlash)
  | .file =>
      match rest with
      | a :: b :: after => if kind.isSlash a && kind.isSlash b then ofFile? after else none
      | _ => none
  | .other =>
      match rest with
      | '/' :: '/' :: after => ofAuthority? kind after
      | _ => none

end Target
end TraceAudit.Web
