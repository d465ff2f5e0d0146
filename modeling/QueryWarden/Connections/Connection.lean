import QueryWarden.Database.Failure
import QueryWarden.Json.Decoder
import QueryWarden.Sql.Dialect
import QueryWarden.Text.Trim
import QueryWarden.Time.Timestamp

/-!
# Connections

A registered target database, the draft a client sends to register or change one, and the settings
an operator lists in the configuration.
-/

namespace QueryWarden.Connections

open QueryWarden.Database QueryWarden.Json QueryWarden.Sql

/-- A registered target database. -/
structure Connection where
  id : Int
  name : String
  dialect : Dialect
  connectionString : String
  createdAt : Time.Timestamp
  deriving DecidableEq, Repr

/-- What a client says about a connection. -/
structure Draft where
  name : String
  dialect : Dialect
  connectionString : String
  deriving DecidableEq, Repr, Inhabited

/-- What an operator says about a connection. -/
structure Settings where
  id : Int
  name : String
  dialect : Dialect
  connectionString : String
  deriving DecidableEq, Repr

/-- The object for a connection. -/
def Connection.toValue (connection : Connection) : Value :=
  .object [("id", .integer connection.id), ("name", .text connection.name),
    ("dialect", .text connection.dialect.tag),
    ("connectionString", .text connection.connectionString),
    ("createdAt", .text connection.createdAt.text)]

/-- The shape of a draft. -/
def draftShape : RecordShape Draft :=
  ⟨"ConnectionDraft",
   [.required "name" [] stringDecoder fun draft name => { draft with name },
    .required "dialect" [] (choiceDecoder Dialect.spellings) fun draft dialect =>
      { draft with dialect },
    .required "connectionString" [] stringDecoder fun draft connectionString =>
      { draft with connectionString }]⟩

/-- Reads a draft. -/
def draftDecoder : Decoder Draft := draftShape.decoder default

/-- Neither the name nor the connection string may be blank. -/
def Draft.check (draft : Draft) : Except Failure Unit :=
  if Text.isBlankText draft.name.toList then
    .error (.invalidConfiguration "name cannot be empty")
  else if Text.isBlankText draft.connectionString.toList then
    .error (.invalidConfiguration "connection string cannot be empty")
  else .ok ()

end QueryWarden.Connections
