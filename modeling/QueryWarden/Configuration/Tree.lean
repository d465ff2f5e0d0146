import QueryWarden.Text.Integer

/-!
# Layered values

The settings of all layers as one tree. Tables of a higher layer are merged into those below, key by
key; anything else takes the place of what was there. Each value remembers where it comes from.
-/

namespace QueryWarden.Configuration

open QueryWarden.Text

/-- Where a value comes from, in words; built-in values come from nowhere. -/
abbrev Origin := Option String

/-- A value without parts. -/
inductive Scalar where
  | nothing
  | bool (value : Bool)
  | integer (value : Int)
  | float (value : Float)
  | text (value : String)

/-- A value of the configuration. -/
inductive Tree where
  | scalar (origin : Origin) (value : Scalar)
  | list (origin : Origin) (items : List Tree)
  | table (origin : Origin) (members : List (String × Tree))

/-- One step from a value to a part of it. -/
inductive Step where
  | key (name : String)
  | index (position : Int)
  deriving DecidableEq, Repr

/-! ## Paths -/

/-- A character of a key in a path. -/
def isPathChar (c : Char) : Bool := c.isAlphanum || c == '_' || c == '-'

/-- The steps after the first key of a path; `fuel` bounds their number. -/
def readSteps? : Nat → List Char → Option (List Step)
  | 0, _ => none
  | _ + 1, [] => some []
  | fuel + 1, '.' :: text => do
      let name := text.takeWhile isPathChar
      guard (!name.isEmpty)
      some (.key (String.ofList name) :: (← readSteps? fuel (text.drop name.length)))
  | fuel + 1, '[' :: text => do
      let text := text.dropWhile (· == ' ')
      let digits := text.takeWhile fun c => c.isDigit || c == '-'
      let position ← ((WordRange.signed 64).read digits).toOption
      match (text.drop digits.length).dropWhile (· == ' ') with
      | ']' :: rest => some (.index position :: (← readSteps? fuel rest))
      | _ => none
  | _ + 1, _ :: _ => none

/-- The path that a name at the top of a layer spells. A name that spells none is a single key. -/
def pathOfName (name : String) : List Step :=
  let text := name.toList
  let first := text.takeWhile isPathChar
  match if first.isEmpty then none else readSteps? (text.length + 1) (text.drop first.length) with
  | some steps => .key (String.ofList first) :: steps
  | none => [.key name]

/-! ## Changing -/

/-- No value at all. -/
def Tree.nothing : Tree := .scalar none .nothing

/-- Changes the value of a key, or that of no value if the key is new. -/
def changeMember (name : String) (change : Tree → Tree) :
    List (String × Tree) → List (String × Tree)
  | [] => [(name, change .nothing)]
  | member :: members =>
      if member.1 = name then (name, change member.2) :: members
      else member :: changeMember name change members

/-- The tree as a table: what is no table gives way to an empty one. -/
def Tree.asTable : Tree → Tree
  | .table origin members => .table origin members
  | _ => .table none []

/-- Changes the value of a key, in a table that is made if need be. -/
def Tree.changeKey (name : String) (change : Tree → Tree) (tree : Tree) : Tree :=
  match tree.asTable with
  | .table origin members => .table origin (changeMember name change members)
  | other => other

/-- Changes the value at a position, in a list that is made and extended if need be. A negative
position counts from the end. -/
def Tree.changeIndex (position : Int) (change : Tree → Tree) (tree : Tree) : Tree :=
  let (origin, items) :=
    match tree with
    | .list origin items => (origin, items)
    | _ => (none, [])
  let place := if position < 0 then (items.length : Int) + position else position
  let items :=
    if place < 0 then List.replicate place.natAbs .nothing ++ items
    else items ++ List.replicate (place.toNat + 1 - items.length) .nothing
  .list origin (items.modify place.toNat change)

/-- Changes the value at the end of a path. -/
def Tree.changeAt (change : Tree → Tree) : List Step → Tree → Tree
  | [], tree => change tree
  | .key name :: path, tree => tree.changeKey name (Tree.changeAt change path)
  | .index position :: path, tree => tree.changeIndex position (Tree.changeAt change path)

/-- The tree with no value at all taken for an empty table. -/
def Tree.filled : Tree → Tree
  | .scalar _ .nothing => .table none []
  | tree => tree

mutual

/-- The value that a higher layer makes of the one below. A table without members leaves a value
that is there as it is. -/
def Tree.over : Tree → Tree → Tree
  | .table _ members, below => membersOver members below.filled
  | value, _ => value

/-- The members of a higher layer over the value below. -/
def membersOver : List (String × Tree) → Tree → Tree
  | [], below => below
  | (name, value) :: members, below => membersOver members (below.changeKey name value.over)

end

/-! ## Layers -/

/-- A layer of the configuration: values by names, which may spell paths. -/
abbrev Layer := List (String × Tree)

/-- The tree with a layer put over it. -/
def Tree.putLayer (tree : Tree) (layer : Layer) : Tree :=
  layer.foldl (fun tree entry => tree.changeAt entry.2.over (pathOfName entry.1)) tree

/-- The tree of some layers, the lowest first. -/
def Tree.ofLayers (layers : List Layer) : Tree :=
  layers.foldl Tree.putLayer (.table none [])

end QueryWarden.Configuration
