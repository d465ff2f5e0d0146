import QueryWarden.Toml.Scalar
import QueryWarden.Toml.Text
import QueryWarden.Toml.Tree

/-!
# TOML documents

A document is a sequence of headers and pairs, one a line. Reading gives the members of its top
table, or nothing if the text is no document.
-/

namespace QueryWarden.Toml

/-! ## Values -/

mutual

/-- Reads a value; `fuel` bounds how deep values are nested and how many there are. -/
def scanValue? : Nat → List Char → Option (Value × List Char)
  | 0, _ => none
  | fuel + 1, text =>
      match text with
      | '"' :: _ | '\'' :: _ =>
          (scanText? text).map fun (value, rest) => (.text value, rest)
      | '[' :: rest => (scanItems? fuel rest).map fun (items, rest) => (.list items, rest)
      | '\x7b' :: rest =>
          match dropBlanks rest with
          | '\x7d' :: rest => some (.table [], rest)
          | rest => (scanMembers? fuel rest []).map fun (members, rest) =>
              (.table (memberValues members), rest)
      | _ =>
          let token := scalarToken text
          (scalar? token).map fun value => (value, text.drop token.length)

/-- Reads the items of a list. A comma may follow the last. -/
def scanItems? : Nat → List Char → Option (List Value × List Char)
  | 0, _ => none
  | fuel + 1, text => do
      match ← dropFiller? (text.length + 1) text with
      | ']' :: rest => some ([], rest)
      | text =>
          let (item, rest) ← scanValue? fuel text
          match ← dropFiller? (rest.length + 1) rest with
          | ',' :: rest => (scanItems? fuel rest).map fun (items, rest) => (item :: items, rest)
          | ']' :: rest => some ([item], rest)
          | _ => none

/-- Reads the members of a table on one line, of which there is at least one more. -/
def scanMembers? : Nat → List Char → Members → Option (Members × List Char)
  | 0, _, _ => none
  | fuel + 1, text, members => do
      let (path, rest) ← scanPath? (text.length + 1) text
      match dropBlanks rest with
      | '=' :: rest =>
          let (value, rest) ← scanValue? fuel (dropBlanks rest)
          let members ← putDotted path value members
          match dropBlanks rest with
          | ',' :: rest => scanMembers? fuel rest members
          | '\x7d' :: rest => some (members, rest)
          | _ => none
      | _ => none

end

/-! ## Lines -/

/-- A document under construction: its top table and the path of the latest header. -/
structure Draft where
  members : Members
  current : List Key

/-- The document with a table named by a header. -/
def Draft.openTable (draft : Draft) (path : List Key) : Option Draft := do
  let key ← path.getLast?
  let members ← inTable (nameTable key) path.dropLast draft.members
  some ⟨members, path⟩

/-- The document with an entry added to a list of tables. -/
def Draft.openEntry (draft : Draft) (path : List Key) : Option Draft := do
  let key ← path.getLast?
  let members ← inTable (addEntry key) path.dropLast draft.members
  some ⟨members, path⟩

/-- The document with a value put into the table of the latest header. -/
def Draft.put (draft : Draft) (path : List Key) (value : Value) : Option Draft := do
  let members ← inTable (putDotted path value) draft.current draft.members
  some { draft with members }

/-- Reads the lines of a document; `fuel` bounds their number. -/
def scanLines? : Nat → List Char → Draft → Option Draft
  | 0, _, _ => none
  | fuel + 1, text, draft => do
      match ← dropFiller? (text.length + 1) text with
      | [] => some draft
      | '[' :: '[' :: rest =>
          let (path, rest) ← scanPath? (rest.length + 1) rest
          match rest with
          | ']' :: ']' :: rest => scanLines? fuel (← dropLine? rest) (← draft.openEntry path)
          | _ => none
      | '[' :: rest =>
          let (path, rest) ← scanPath? (rest.length + 1) rest
          match rest with
          | ']' :: rest => scanLines? fuel (← dropLine? rest) (← draft.openTable path)
          | _ => none
      | text =>
          let (path, rest) ← scanPath? (text.length + 1) text
          match rest with
          | '=' :: rest =>
              let (value, rest) ← scanValue? (rest.length + 1) (dropBlanks rest)
              scanLines? fuel (← dropLine? rest) (← draft.put path value)
          | _ => none

/-- The members of the top table of a document. A byte order mark in front does not count. -/
def parse? (text : List Char) : Option (List (Key × Value)) :=
  let text := if text.head? = some '\ufeff' then text.drop 1 else text
  (scanLines? (text.length + 1) text ⟨[], []⟩).map fun draft => memberValues draft.members

end QueryWarden.Toml
