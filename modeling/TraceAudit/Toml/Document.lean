import TraceAudit.Toml.Scalar

/-!
# TOML documents

A document read as data. A table is opened once by a header, by the headers of tables below it, or
by dotted keys, and a document that gives a key twice or opens a table twice is refused.
-/

namespace TraceAudit.Toml

/-- How a table came to be. -/
inductive Origin where
  /-- By a header of its own, or as the document. -/
  | header
  /-- By a header of a table below it. -/
  | implied
  /-- By a dotted key. -/
  | dotted
  deriving DecidableEq, Repr

/-- What a key of a table stands for while the document is read. -/
inductive Node where
  | value (v : Json)
  | table (origin : Origin) (members : List (String × Node))
  /-- Tables with one header, of which the last one is open. -/
  | tables (items : List (List (String × Node)))

/-- The keys of a table with what they stand for. -/
abbrev Members := List (String × Node)

/-- Members with a key standing for something else, or added if it is not there. -/
def setKey (key : String) (node : Node) : Members → Members
  | [] => [(key, node)]
  | (k, n) :: rest => if k = key then (key, node) :: rest else (k, n) :: setKey key node rest

/-- Changes the table below a path. Tables on the way are opened if they are not there; a dotted key
may not pass a table that has a header. -/
def update (isDotted : Bool) (change : Origin → Members → Option (Origin × Members)) :
    List String → Origin → Members → Option (Origin × Members)
  | [], origin, members => change origin members
  | key :: path, origin, members =>
      match members.lookup key with
      | none => do
          let (o, m) ← update isDotted change path (if isDotted then .dotted else .implied) []
          return (origin, setKey key (.table o m) members)
      | some (.value _) => none
      | some (.table o m) =>
          if isDotted && o == .header then none
          else do
            let (o, m) ← update isDotted change path o m
            return (origin, setKey key (.table o m) members)
      | some (.tables items) => do
          let last ← items.getLast?
          let (_, m) ← update isDotted change path .header last
          return (origin, setKey key (.tables (items.dropLast ++ [m])) members)

/-- Puts a value under a dotted key. -/
def putValue (path : List String) (v : Json) (origin : Origin) (members : Members) :
    Option (Origin × Members) := do
  let key ← path.getLast?
  let above := path.dropLast
  let put (o : Origin) (m : Members) : Option (Origin × Members) :=
    if (o == .dotted) == above.isEmpty || (m.lookup key).isSome then none
    else some (o, m ++ [(key, .value v)])
  update true put above origin members

/-- Opens the table of a header. -/
def openTable (path : List String) (members : Members) : Option Members := do
  let key ← path.getLast?
  let start (o : Origin) (m : Members) : Option (Origin × Members) :=
    match m.lookup key with
    | none => some (o, m ++ [(key, .table .header [])])
    | some (.table .implied below) => some (o, setKey key (.table .header below) m)
    | _ => none
  return (← update false start path.dropLast .header members).2

/-- Opens one more table of a header in double brackets. -/
def openItem (path : List String) (members : Members) : Option Members := do
  let key ← path.getLast?
  let start (o : Origin) (m : Members) : Option (Origin × Members) :=
    match m.lookup key with
    | none => some (o, m ++ [(key, .tables [[]])])
    | some (.tables items) => some (o, setKey key (.tables (items ++ [[]])) m)
    | _ => none
  return (← update false start path.dropLast .header members).2

mutual
/-- The data that a node is. -/
def Node.data : Node → Json
  | .value v => v
  | .table _ members => .object (membersData members)
  | .tables items => .array (itemsData items)

/-- The data of the members of a table. -/
def membersData : List (String × Node) → List (String × Json)
  | [] => []
  | (key, node) :: rest => (key, node.data) :: membersData rest

/-- The data of several tables. -/
def itemsData : List (List (String × Node)) → List Json
  | [] => []
  | members :: rest => .object (membersData members) :: itemsData rest
end

/-! ## Values -/

mutual
/-- A value. The number of steps bounds the work, and `depth` how deep it may nest. -/
def value? (steps depth : Nat) (cs : List Char) : Option (Json × List Char) :=
  match steps with
  | 0 => none
  | steps + 1 =>
      match cs, depth with
      | '[' :: rest, depth + 1 => items? steps depth [] rest
      | '\x7b' :: rest, depth + 1 =>
          match skipGaps rest with
          | '\x7d' :: rest => some (.object [], rest)
          | rest => members? steps depth [] rest
      | '"' :: _, _ => do
          let (s, rest) ← string? cs
          return (.string s, rest)
      | '\'' :: _, _ => do
          let (s, rest) ← string? cs
          return (.string s, rest)
      | _, _ => do
          let (w, rest) := word cs
          return (← wordValue? w, rest)

/-- The items of an array after those done, last first. A comma may follow the last item. -/
def items? (steps depth : Nat) (done : List Json) (cs : List Char) : Option (Json × List Char) :=
  match steps with
  | 0 => none
  | steps + 1 =>
      match skipLines cs.length cs with
      | ']' :: rest => some (.array done.reverse, rest)
      | cs => do
          let (v, rest) ← value? steps depth cs
          match skipLines rest.length rest with
          | ',' :: rest => items? steps depth (v :: done) rest
          | ']' :: rest => return (.array (v :: done).reverse, rest)
          | _ => none

/-- The members of a table on one line after those done. No comma follows the last one. -/
def members? (steps depth : Nat) (done : Members) (cs : List Char) : Option (Json × List Char) :=
  match steps with
  | 0 => none
  | steps + 1 => do
      let (path, rest) ← key? cs.length cs
      let '=' :: rest := rest | none
      let (v, rest) ← value? steps depth (skipGaps rest)
      let (_, done) ← putValue path v .header done
      match skipGaps rest with
      | ',' :: rest => members? steps depth done rest
      | '\x7d' :: rest => return (.object (membersData done), rest)
      | _ => none
end

/-- How deep values may nest. -/
def maxDepth : Nat := 79

/-! ## Documents -/

/-- Where the reading of a document stands. -/
structure State where
  root : Members
  /-- The table that is open. -/
  current : List String

/-- Reads a line that gives a key its value. -/
def keyLine? (s : State) (cs : List Char) : Option (State × List Char) := do
  let (path, rest) ← key? cs.length cs
  let '=' :: rest := rest | none
  let rest := skipGaps rest
  let (v, rest) ← value? (2 * rest.length + 2) maxDepth rest
  let (_, root) ← update false (putValue path v) s.current .header s.root
  return ({ s with root }, ← endLine? rest)

/-- Reads one line, and with it all lines over which a value goes. -/
def line? (s : State) (cs : List Char) : Option (State × List Char) :=
  match skipGaps cs with
  | '[' :: '[' :: rest => do
      let (path, rest) ← key? rest.length rest
      let ']' :: ']' :: rest := rest | none
      let root ← openItem path s.root
      return (⟨root, path⟩, ← endLine? rest)
  | '[' :: rest => do
      let (path, rest) ← key? rest.length rest
      let ']' :: rest := rest | none
      let root ← openTable path s.root
      return (⟨root, path⟩, ← endLine? rest)
  | rest =>
      match endLine? rest with
      | some after => some (s, after)
      | none => keyLine? s rest

/-- Reads lines, of which there are at most as many as given. -/
def lines? : Nat → State → List Char → Option State
  | _, s, [] => some s
  | 0, _, _ :: _ => none
  | n + 1, s, cs => do
      let (s, rest) ← line? s cs
      lines? n s rest

/-- The data that a document is. A byte order mark may stand before it. -/
def parse? (document : String) : Option Json := do
  let cs := match document.toList with
    | c :: rest => if c.toNat = 0xFEFF then rest else c :: rest
    | [] => []
  let s ← lines? (cs.length + 1) ⟨[], []⟩ cs
  return .object (membersData s.root)

end TraceAudit.Toml
