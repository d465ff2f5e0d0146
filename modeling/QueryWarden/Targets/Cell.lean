import QueryWarden.Database.Failure
import QueryWarden.Json.Value
import QueryWarden.Text.Integer

/-!
# Cells as packages hand them over

Cells come off the wire through packages, one for each engine, and what these make of the bytes is
theirs: here it is whatever a package says. PostgreSQL's and MySQL's packages keep a cell as it is
until it is asked for as a value of some type; SQL Server's has it as a value of some kind as soon
as the rows are fetched, and only dates and times are asked for later.
-/

namespace QueryWarden.Targets

open QueryWarden.Database QueryWarden.Json QueryWarden.Text

/-- Why a call on a source has no result. -/
inductive Halt where
  /-- The caller is told what failed. -/
  | failure (failure : Failure)
  /-- The caller is told nothing: a package broke down, or a server never answers. -/
  | lost
  deriving DecidableEq, Repr

/-- What a package makes of a cell. -/
inductive Decoded (α : Type) where
  | read (value : α)
  /-- It returns an error, with these words. -/
  | refused (detail : String)
  /-- It breaks down, and the call with it. -/
  | broken

/-- Goes on with a value, or without one if the package refuses it. -/
def Decoded.orElse {α β : Type} (decoded : Decoded α) (next : α → Except Halt β)
    (missed : Except Halt β) : Except Halt β :=
  match decoded with
  | .read value => next value
  | .refused _ => missed
  | .broken => .error .lost

/-- A cell that is not null, of PostgreSQL or MySQL: what its package makes of it for each type it
is asked for. Numbers of any length, identifiers and times are given as their texts. -/
structure OpenCell where
  bool : Decoded Bool
  integer : WordRange → Decoded Int
  /-- A floating number of so many bits. -/
  float : Nat → Decoded Float
  decimal : Decoded String
  uuid : Decoded String
  /-- A date and time of day in universal time. -/
  instant : Decoded String
  /-- A date and time of day. -/
  moment : Decoded String
  date : Decoded String
  clock : Decoded String
  json : Decoded Value
  text : Decoded String
  bytes : Decoded (List UInt8)

/-- A cell that is of no use for any type. -/
def OpenCell.refusing (detail : String) : OpenCell where
  bool := .refused detail
  integer _ := .refused detail
  float _ := .refused detail
  decimal := .refused detail
  uuid := .refused detail
  instant := .refused detail
  moment := .refused detail
  date := .refused detail
  clock := .refused detail
  json := .refused detail
  text := .refused detail
  bytes := .refused detail

/-- A cell of SQL Server by the kind of its value, which is missing for null. -/
inductive TypedCell where
  | integer (value : Option Int)
  | float (value : Option Float)
  | bit (value : Option Bool)
  | text (value : Option String)
  | guid (value : Option String)
  | numeric (value : Option String)
  | binary (value : Option (List UInt8))
  /-- A cell of another kind: what the package makes of it as a date and time of day, as one with a
  zone, as a date and as a time of day, in this order. -/
  | temporal (texts : List (Decoded (Option String)))

/-- The packages for the engines: what they make of a cell with a type of some name. -/
structure Packages where
  postgreSql : String → List UInt8 → OpenCell
  mySql : String → List UInt8 → OpenCell
  sqlServer : String → Option (List UInt8) → Decoded TypedCell

/-- Packages that make nothing of any cell. -/
def Packages.refusing (detail : String) : Packages :=
  ⟨fun _ _ => .refusing detail, fun _ _ => .refusing detail, fun _ _ => .refused detail⟩

end QueryWarden.Targets
