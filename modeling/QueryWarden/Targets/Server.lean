import QueryWarden.Database.Catalogue
import QueryWarden.Database.QueryResult

/-!
# Servers

What a database server answers to the statements it is sent. A server may refuse a statement, leave
it unanswered, or answer it; questions about its catalogue are answered with rows of texts, a query
with typed cells as they travel on the wire. At last the client takes its leave, which may fail too.
-/

namespace QueryWarden.Targets

open QueryWarden.Database

/-- A refusal: its code and state, its text, and for some servers also how severe it is, the name of
the server and the line. -/
structure Refusal where
  code : String
  state : String
  message : String
  severity : Nat
  server : String
  line : Nat
  deriving DecidableEq, Repr

/-- A column of a result: its name and the name of its type. -/
structure WireColumn where
  name : String
  typeName : String
  deriving DecidableEq, Repr

/-- The bytes of a value, or none for null. -/
abbrev WireCell := Option (List UInt8)

/-- What a query gives. -/
structure ResultSet where
  columns : List WireColumn
  rows : List (List WireCell)
  deriving DecidableEq, Repr

/-- A server by its answers. -/
structure Server where
  /-- The refusal of any connection. -/
  login : Option Refusal
  /-- The refusal of a statement. -/
  refuses : String → Option Refusal
  /-- A statement that is never answered. -/
  ignores : String → Bool
  /-- The rows of its catalogue. -/
  catalogue : CatalogueQuery → List CatalogueRow
  /-- What a query gives; a statement may have no result. -/
  result : Option ResultSet
  /-- The trouble with the network when a client takes its leave. -/
  farewell : Option String

/-- A server that answers nothing of interest. -/
def Server.silent : Server :=
  ⟨none, fun _ => none, fun _ => false, fun _ => [], none, none⟩

/-- How a statement ended. -/
inductive Reply where
  | done
  | refused (refusal : Refusal)
  | unanswered
  deriving DecidableEq, Repr

/-- How a statement ends. -/
def Server.reply (server : Server) (statement : String) : Reply :=
  if server.ignores statement then .unanswered
  else
    match server.refuses statement with
    | some refusal => .refused refusal
    | none => .done

end QueryWarden.Targets
