import QueryWarden.Toml.Value

/-!
# Growing tables

The tables of a document under construction. How a table came about decides what may still be added
to it: one that a header names is complete in itself, one that a header or a key only passes through
may still be named.
-/

namespace QueryWarden.Toml

/-- How a table came about. -/
inductive TableOrigin where
  /-- A header names it. -/
  | header
  /-- A header passes through it. -/
  | implied
  /-- A key with points passes through it. -/
  | dotted
  deriving DecidableEq, Repr

/-- A part of a document. The entries of a list of tables stand latest first. -/
inductive Node where
  | leaf (value : Value)
  | table (origin : TableOrigin) (members : List (Key × Node))
  | entries (tables : List (List (Key × Node)))

/-- The members of a table. -/
abbrev Members := List (Key × Node)

/-- Changes what stands under a key, or puts something there. -/
def alterMember (key : Key) (change : Option Node → Option Node) : Members → Option Members
  | [] => (change none).map fun node => [(key, node)]
  | member :: members =>
      if member.1 = key then
        (change (some member.2)).map fun node => (key, node) :: members
      else (alterMember key change members).map (member :: ·)

/-- Changes the table at the end of a header's path. A list of tables stands for its latest. -/
def inTable (change : Members → Option Members) : List Key → Members → Option Members
  | [], members => change members
  | key :: path, members =>
      alterMember key (fun node =>
        match node with
        | none => (inTable change path []).map (.table .implied)
        | some (.table origin inner) => (inTable change path inner).map (.table origin)
        | some (.entries (latest :: earlier)) =>
            (inTable change path latest).map fun latest => .entries (latest :: earlier)
        | some (.entries []) | some (.leaf _) => none) members

/-- Changes the table that a key with points leads to. Only tables made by such keys may be changed
like that. -/
def inDotted (change : Members → Option Members) : List Key → Members → Option Members
  | [], members => change members
  | key :: path, members =>
      alterMember key (fun node =>
        match node with
        | none => (inDotted change path []).map (.table .dotted)
        | some (.table origin inner) =>
            if origin = .header || (path.isEmpty && origin != .dotted) then none
            else (inDotted change path inner).map (.table origin)
        | some (.entries (latest :: earlier)) =>
            if path.isEmpty then none
            else (inDotted change path latest).map fun latest => .entries (latest :: earlier)
        | some (.entries []) | some (.leaf _) => none) members

/-- Names a table by a header. -/
def nameTable (key : Key) : Members → Option Members :=
  alterMember key fun
    | none => some (.table .header [])
    | some (.table .implied members) => some (.table .header members)
    | _ => none

/-- Adds an entry to a list of tables. -/
def addEntry (key : Key) : Members → Option Members :=
  alterMember key fun
    | none => some (.entries [[]])
    | some (.entries tables) => some (.entries ([] :: tables))
    | _ => none

/-- Puts a value under a key that is new. -/
def putValue (key : Key) (value : Value) : Members → Option Members :=
  alterMember key fun
    | none => some (.leaf value)
    | some _ => none

/-- Puts a value at the end of a path of keys with points. -/
def putDotted (path : List Key) (value : Value) (members : Members) : Option Members := do
  let key ← path.getLast?
  inDotted (putValue key value) path.dropLast members

mutual

/-- The finished value of a part. -/
def Node.value : Node → Value
  | .leaf value => value
  | .table _ members => .table (memberValues members)
  | .entries tables => .list (entryValues tables).reverse

/-- The finished members of a table. -/
def memberValues : List (Key × Node) → List (Key × Value)
  | [] => []
  | (key, node) :: members => (key, node.value) :: memberValues members

/-- The finished entries of a list of tables. -/
def entryValues : List (List (Key × Node)) → List Value
  | [] => []
  | members :: tables => .table (memberValues members) :: entryValues tables

end

end QueryWarden.Toml
