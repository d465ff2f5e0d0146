import QueryWarden.Json.Reader

/-!
# Decoders

A decoder reads one value of a wanted shape from the front of a text, given how many brackets it
may still open. Records are read from objects, whose members may come in any order and under any
of their names, and from lists, whose items follow the order of the fields.
-/

namespace QueryWarden.Json

/-- Reads a value of type `α` from the front of a text. -/
abbrev Decoder (α : Type) := Nat → List Char → Except Fault (α × List Char)

/-! ## Values of another shape -/

/-- Refuses the value at the front of a text for what it is. Scalars are read first and may turn
out to be broken; brackets are not entered. -/
def refuse {α : Type} (expected : String) (text : List Char) : Except Fault α :=
  let wrong (found : Found) (rest : List Char) : Except Fault α :=
    failHere (.invalidType found expected) rest
  let number (read : Number) (rest : List Char) : Except Fault α :=
    match read with
    | .whole value => wrong (.integer value) rest
    | .float value => wrong (.float value) rest
  match text with
  | [] => failHere .expectedValue []
  | c :: rest =>
      if c = 'n' then do wrong .null (← scanWord "ull".toList rest)
      else if c = 't' then do wrong (.bool true) (← scanWord "rue".toList rest)
      else if c = 'f' then do wrong (.bool false) (← scanWord "alse".toList rest)
      else if c = '-' then do
        let (value, rest) ← scanNumber false rest
        number value rest
      else if c.isDigit then do
        let (value, rest) ← scanNumber true text
        number value rest
      else if c = '"' then do
        let (value, rest) ← scanText rest
        wrong (.text value) rest
      else if c = '[' then wrong .list text
      else if c = '\x7b' then wrong .object text
      else failAt .expectedValue text

/-- The text from the next token on, which there must be. -/
def atToken (text : List Char) : Except Fault (List Char) :=
  match dropSpace text with
  | [] => failHere .endInValue []
  | token => .ok token

/-! ## Scalars -/

/-- Reads a text. -/
def textDecoder : Decoder (List Char) := fun _ text => do
  match ← atToken text with
  | '"' :: rest => scanText rest
  | token => refuse "a string" token

/-- Reads a string. -/
def stringDecoder : Decoder String := fun depth text => do
  let (value, rest) ← textDecoder depth text
  .ok (String.ofList value, rest)

/-- Reads a truth value. -/
def boolDecoder : Decoder Bool := fun _ text => do
  match ← atToken text with
  | 't' :: rest => .ok (true, ← scanWord "rue".toList rest)
  | 'f' :: rest => .ok (false, ← scanWord "alse".toList rest)
  | token => refuse "a boolean" token

/-- Reads a whole number of 64 bits with a sign. -/
def int64Decoder : Decoder Int := fun _ text => do
  let take (number : Number) (rest : List Char) : Except Fault (Int × List Char) :=
    match number with
    | .float value => failHere (.invalidType (.float value) "i64") rest
    | .whole value =>
        if value < Int.pow 2 63 then .ok (value, rest)
        else failHere (.invalidValue (.integer value) "i64") rest
  match ← atToken text with
  | '-' :: rest =>
      let (number, rest) ← scanNumber false rest
      take number rest
  | token =>
      if startsWithDigit token then
        let (number, rest) ← scanNumber true token
        take number rest
      else refuse "i64" token

/-- Reads null as nothing, anything else by `decoder`. -/
def optionDecoder {α : Type} (decoder : Decoder α) : Decoder (Option α) := fun depth text =>
  match dropSpace text with
  | 'n' :: rest => (scanWord "ull".toList rest).map fun rest => (none, rest)
  | token => (decoder depth token).map fun (value, rest) => (some value, rest)

/-- Reads null as the default. -/
def defaultDecoder {α : Type} [Inhabited α] (decoder : Decoder α) : Decoder α :=
  fun depth text => (optionDecoder decoder depth text).map fun (value, rest) =>
    (value.getD default, rest)

/-- Reads any value. -/
def anyDecoder : Decoder Value := readValue

/-! ## Lists -/

/-- Reads the items of a list; `items` holds those read, latest first. -/
def listFrom {α : Type} (decoder : Decoder α) (depth : Nat) :
    Nat → Bool → List Char → List α → Except Fault ((List α) × List Char)
  | 0, _, text, _ => failHere .endInList text
  | fuel + 1, isFirst, text, items =>
      match nextItem isFirst text with
      | .error fault => .error fault
      | .ok (.ended rest) => .ok (items.reverse, rest)
      | .ok (.another text) =>
          match placedIn (.element items.length) (decoder depth text) with
          | .error fault => .error fault
          | .ok (item, rest) => listFrom decoder depth fuel false rest (item :: items)

/-- Reads a list. -/
def listDecoder {α : Type} (decoder : Decoder α) : Decoder (List α) := fun depth text => do
  match ← atToken text with
  | '[' :: rest =>
      let depth ← enter depth ('[' :: rest)
      listFrom decoder depth (rest.length + 1) true rest []
  | token => refuse "a sequence" token

/-! ## Choices among names -/

/-- Reads one of the names in a table. An object with the name as its only member, whose value is
null, stands for the name as well. -/
def choiceDecoder {α : Type} (choices : List (String × α)) : Decoder α := fun depth text => do
  let choose (name rest : List Char) : Except Fault (α × List Char) :=
    match choices.lookup (String.ofList name) with
    | some choice => .ok (choice, rest)
    | none => failHere (.unknownVariant name (choices.map Prod.fst)) rest
  match ← atToken text with
  | '"' :: rest =>
      let (name, rest) ← scanText rest
      choose name rest
  | '\x7b' :: rest =>
      let _ ← enter depth ('\x7b' :: rest)
      match ← atToken rest with
      | '"' :: rest =>
          let (name, rest) ← scanText rest
          let (choice, rest) ← choose name rest
          let token ← atToken (← scanColon rest)
          let rest ← placedIn (.field name) (
            match token with
            | 'n' :: rest => scanWord "ull".toList rest
            | token => refuse "unit" token)
          match dropSpace rest with
          | [] => failHere .endInObject []
          | c :: rest =>
              if c = '\x7d' then .ok (choice, rest) else failHere .expectedValue (c :: rest)
      | token => refuse "variant identifier" token
  | token => failAt .expectedValue token

/-! ## Records -/

/-- A field of the record `σ`: its main name, its other names, how its value is read into the
record, and what stands for it in an object and in a list that does not have it. -/
structure Field (σ : Type) where
  name : String
  aliases : List String
  read : σ → Decoder σ
  absent : Option (σ → σ)
  isOptionalItem : Bool

/-- The field goes by the name. -/
def Field.goesBy {σ : Type} (field : Field σ) (name : List Char) : Bool :=
  (field.name :: field.aliases).any fun known => known.toList == name

/-- The position of the field that goes by a name. -/
def fieldIndex? {σ : Type} (fields : List (Field σ)) (name : List Char) : Option Nat :=
  fields.findIdx? fun field => field.goesBy name

/-- The record with the fields that were not seen left at what stands for them, or the first that
may not be missing. -/
def fillAbsent {σ : Type} (seen : List Nat) : Nat → List (Field σ) → σ → Except Cause σ
  | _, [], record => .ok record
  | index, field :: fields, record =>
      if seen.contains index then fillAbsent seen (index + 1) fields record
      else
        match field.absent with
        | some fill => fillAbsent seen (index + 1) fields (fill record)
        | none => .error (.missingField field.name)

/-- The text after the blanks and a closing brace, if one follows. -/
def pastBrace (text : List Char) : List Char :=
  match dropSpace text with
  | '\x7d' :: rest => rest
  | rest => rest

/-- Reads the members of an object into a record. -/
def membersFrom {σ : Type} (fields : List (Field σ)) (depth : Nat) :
    Nat → Bool → List Char → List Nat → σ → Except Fault (σ × List Char)
  | 0, _, text, _, _ => failHere .endInObject text
  | fuel + 1, isFirst, text, seen, record =>
      match nextMember isFirst text with
      | .error fault => .error fault
      | .ok (.ended rest) =>
          match fillAbsent seen 0 fields record with
          | .ok record => .ok (record, rest)
          | .error cause => failHere cause rest
      | .ok (.another text) =>
          match scanText text with
          | .error fault => .error fault
          | .ok (name, rest) =>
              let index? := fieldIndex? fields name
              match index?.bind fun index => fields[index]?.map fun field => (index, field) with
              | none =>
                  match scanColon rest with
                  | .error fault => .error fault
                  | .ok rest =>
                      match placedIn (.field name) (skipValue rest) with
                      | .error fault => .error fault
                      | .ok rest => membersFrom fields depth fuel false rest seen record
              | some (index, field) =>
                  if seen.contains index then
                    failHere (.duplicateField field.name) (pastBrace rest)
                  else
                    match scanColon rest with
                    | .error fault => .error fault
                    | .ok rest =>
                        match placedIn (.field name) (field.read record depth rest) with
                        | .error fault => .error fault
                        | .ok (record, rest) =>
                            membersFrom fields depth fuel false rest (index :: seen) record

/-- Reads the items of a list into a record, field by field. -/
def itemsFrom {σ : Type} (expected : String) (depth : Nat) :
    Nat → List (Field σ) → List Char → σ → Except Fault (σ × List Char)
  | _, [], text, record => (closeList text).map fun rest => (record, rest)
  | index, field :: fields, text, record =>
      match nextItem (index == 0) text with
      | .error fault => .error fault
      | .ok (.ended rest) =>
          if (field :: fields).all fun field => field.isOptionalItem then
            .ok (record, rest)
          else
            failHere (.invalidLength
              (index + ((field :: fields).takeWhile fun field => field.isOptionalItem).length)
              expected) rest
      | .ok (.another text) =>
          match placedIn (.element index) (field.read record depth text) with
          | .error fault => .error fault
          | .ok (record, rest) => itemsFrom expected depth (index + 1) fields rest record

/-- A record shape: its name and its fields in order. -/
structure RecordShape (σ : Type) where
  name : String
  fields : List (Field σ)

/-- What a list that is too short for the record is told. -/
def RecordShape.expected {σ : Type} (shape : RecordShape σ) : String :=
  "struct " ++ shape.name ++ " with " ++ toString shape.fields.length ++
    (if shape.fields.length = 1 then " element" else " elements")

/-- Reads a record, starting from `blank`. -/
def RecordShape.decoder {σ : Type} (shape : RecordShape σ) (blank : σ) : Decoder σ :=
  fun depth text => do
    match ← atToken text with
    | '\x7b' :: rest =>
        let depth ← enter depth ('\x7b' :: rest)
        membersFrom shape.fields depth (rest.length + 1) true rest [] blank
    | '[' :: rest =>
        let depth ← enter depth ('[' :: rest)
        itemsFrom shape.expected depth 0 shape.fields rest blank
    | token => refuse ("struct " ++ shape.name) token

/-- A field that must be there. -/
def Field.required {σ α : Type} (name : String) (aliases : List String) (decoder : Decoder α)
    (put : σ → α → σ) : Field σ :=
  ⟨name, aliases, fun record depth text =>
    (decoder depth text).map fun (value, rest) => (put record value, rest), none, false⟩

/-- A field that keeps what the blank record has when it is missing. -/
def Field.optional {σ α : Type} (name : String) (aliases : List String) (decoder : Decoder α)
    (put : σ → α → σ) : Field σ :=
  { Field.required name aliases decoder put with absent := some id, isOptionalItem := true }

/-- A field whose value may be null, or missing from an object but not from a list. -/
def Field.nullable {σ α : Type} (name : String) (aliases : List String) (decoder : Decoder α)
    (put : σ → Option α → σ) : Field σ :=
  { Field.required name aliases (optionDecoder decoder) put with absent := some id }

/-! ## Documents -/

/-- Reads a whole text as one value. -/
def Decoder.document {α : Type} (decoder : Decoder α) (text : List Char) : Except Fault α := do
  let (value, rest) ← decoder depthLimit text
  match dropSpace rest with
  | [] => .ok value
  | rest => failAt .trailingCharacters rest

end QueryWarden.Json
