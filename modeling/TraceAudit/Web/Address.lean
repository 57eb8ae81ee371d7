import TraceAudit.Text.AsciiCase
import TraceAudit.Text.Cut

/-!
# Network addresses

Addresses of four bytes and of eight groups, as they are written in a URL and as they are printed.
-/

namespace TraceAudit.Web

/-- The value of a hexadecimal digit. -/
def hexValue? (c : Char) : Option Nat :=
  if c.isDigit then some (c.toNat - 48)
  else if 'a' ≤ c ∧ c ≤ 'f' then some (c.toNat - 87)
  else if 'A' ≤ c ∧ c ≤ 'F' then some (c.toNat - 55)
  else none

/-- The number that digits to a base stand for; none if one of them is no such digit. -/
def number? (base : Nat) (digits : List Char) : Option Nat :=
  digits.foldlM (fun n c => do
    let d ← hexValue? c
    if d < base then return base * n + d else none) 0

namespace IPv4

/-- The number that a part of an address writes: hexadecimal after `0x`, octal after another `0`. -/
def part? (part : List Char) : Option Nat :=
  match part with
  | [] => none
  | '0' :: 'x' :: digits => number? 16 digits
  | '0' :: 'X' :: digits => number? 16 digits
  | '0' :: d :: digits => number? 8 (d :: digits)
  | digits => number? 10 digits

/-- The parts of a host, a dot at its end apart. -/
def parts (host : List Char) : List (List Char) :=
  let parts := Text.pieces (· == '.') host
  if parts.length > 1 && parts.getLast? == some [] then parts.dropLast else parts

/-- Whether the last part of a host is a number, so that the host has to be an address. -/
def endsInNumber (host : List Char) : Bool :=
  match (parts host).getLast? with
  | some (c :: rest) => (c :: rest).all Char.isDigit || (part? (c :: rest)).isSome
  | _ => false

/-- The address that a host writes. The last part stands for all bytes that are left. -/
def ofHost? (host : List Char) : Option Nat := do
  let parts := parts host
  if parts.length > 4 then none
  let numbers ← parts.mapM part?
  let last ← numbers.getLast?
  let leading := numbers.dropLast
  if leading.any (255 < ·) || Nat.pow 256 (4 - leading.length) ≤ last then none
  else
    let high := (leading ++ List.replicate (4 - leading.length) 0).foldl (fun n b => 256 * n + b) 0
    return high + last

/-- The text of an address. -/
def text (address : Nat) : List Char :=
  Text.joined '.' ([3, 2, 1, 0].map fun i => (toString (address / Nat.pow 256 i % 256)).toList)

/-- Whether a text is a byte without needless zeros. -/
def isByte (part : List Char) : Bool :=
  !part.isEmpty && part.length ≤ 3 && part.all Char.isDigit &&
    !(part.length > 1 && part.head? == some '0') &&
    (number? 10 part).any (· ≤ 255)

/-- Whether a text is an address of four bytes in decimal. -/
def isPlain (cs : List Char) : Bool :=
  let parts := Text.pieces (· == '.') cs
  parts.length == 4 && parts.all isByte

end IPv4

namespace IPv6

/-- The two groups that four bytes in decimal make. -/
def ofDecimal? (cs : List Char) : Option (List Nat) := do
  if !IPv4.isPlain cs then none
  else
    let bytes ← (Text.pieces (· == '.') cs).mapM (number? 10)
    match bytes with
    | [a, b, c, d] => return [256 * a + b, 256 * c + d]
    | _ => none

/-- A group of one to four hexadecimal digits. -/
def group? (cs : List Char) : Option Nat :=
  if cs.isEmpty || cs.length > 4 then none else number? 16 cs

/-- Groups with colons between them, four bytes in decimal perhaps standing for the last two. -/
def groups? : List (List Char) → Option (List Nat)
  | [] => some []
  | [last] =>
      match group? last with
      | some n => some [n]
      | none => ofDecimal? last
  | part :: rest => do return (← group? part) :: (← groups? rest)

/-- The groups of a side of a gap; there may be none. -/
def side? (cs : List Char) : Option (List Nat) :=
  if cs.isEmpty then some [] else groups? (Text.pieces (· == ':') cs)

/-- The text before the first two colons in a row, and the text after them. -/
def cutAtGap (before : List Char) : List Char → List Char × Option (List Char)
  | ':' :: ':' :: rest => (before.reverse, some rest)
  | c :: rest => cutAtGap (c :: before) rest
  | [] => (before.reverse, none)

/-- The eight groups of an address. Two colons in a row stand for one group of zero or more. -/
def ofText? (cs : List Char) : Option (List Nat) := do
  match cutAtGap [] cs with
  | (_, none) =>
      let groups ← side? cs
      if groups.length = 8 then return groups else none
  | (before, some after) =>
      if before.contains '.' then none
      else
        let front ← side? before
        let back ← side? after
        if front.length + back.length < 8 then
          return front ++ List.replicate (8 - front.length - back.length) 0 ++ back
        else none

/-- The place and the length of the longest run of zeros, the first of several, given the best one
so far and the one that goes on. -/
def longestGap (best current : Nat × Nat) (i : Nat) : List Nat → Nat × Nat
  | [] => best
  | 0 :: rest =>
      let current := if current.2 = 0 then (i, 1) else (current.1, current.2 + 1)
      longestGap (if best.2 < current.2 then current else best) current (i + 1) rest
  | _ :: rest => longestGap best (0, 0) (i + 1) rest

/-- A group in hexadecimal. -/
def groupText (n : Nat) : List Char := Nat.toDigits 16 n

/-- The text of an address: the longest run of two or more zeros is left out, and an address of
four bytes in disguise shows them in decimal. -/
def text (groups : List Nat) : List Char :=
  match groups with
  | [0, 0, 0, 0, 0, 0xFFFF, high, low] =>
      "::ffff:".toList ++ IPv4.text (65536 * high + low)
  | _ =>
      let (place, length) := longestGap (0, 0) (0, 0) 0 groups
      let colons := fun part : List Nat => Text.joined ':' (part.map groupText)
      if length < 2 then colons groups
      else colons (groups.take place) ++ [':', ':'] ++ colons (groups.drop (place + length))

/-- Whether a text is an address. -/
def isPlain (cs : List Char) : Bool :=
  (ofText? cs).isSome

end IPv6
end TraceAudit.Web
