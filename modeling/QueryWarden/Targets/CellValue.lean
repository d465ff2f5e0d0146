import QueryWarden.Bytes.Utf8
import QueryWarden.Targets.Cell

/-!
# Values of cells

What the engines' drivers turn a cell into. For PostgreSQL and MySQL the name of its type decides as
what it is asked for; what the package refuses is null, or for types without a branch of their own a
note.
-/

namespace QueryWarden.Targets

open QueryWarden.Bytes QueryWarden.Database QueryWarden.Json QueryWarden.Text

/-- A floating number, or null if it is not finite. -/
def floatValue (value : Float) : Value :=
  if value.isFinite then .float value else .null

/-- Bytes as a text, or a note that they are none. -/
def textOr (note : String) (bytes : List UInt8) : Value :=
  match decodeText bytes with
  | .ok text => .text (String.ofList text)
  | .error _ => .text note

/-- The value that a package makes of a cell, or null. -/
def Decoded.orNull {α : Type} (decoded : Decoded α) (toValue : α → Value) : Except Halt Value :=
  decoded.orElse (fun value => .ok (toValue value)) (.ok .null)

/-- A cell as a text, or else as the text that its bytes are, or else a note: that of `foreign` on
bytes that are no text, and one with the name of the type where there are none. -/
def OpenCell.textValue (cell : OpenCell) (typeName : String) (foreign : List UInt8 → String) :
    Except Halt Value :=
  cell.text.orElse (fun text => .ok (.text text))
    (cell.bytes.orElse (fun bytes => .ok (textOr (foreign bytes) bytes))
      (.ok (.text ("<" ++ typeName ++ ">"))))

/-- The value of a cell of PostgreSQL. -/
def OpenCell.postgreSqlValue (cell : OpenCell) (typeName : String) : Except Halt Value :=
  match typeName with
  | "BOOL" => cell.bool.orNull .bool
  | "INT2" => (cell.integer (.signed 16)).orNull .integer
  | "INT4" => (cell.integer (.signed 32)).orNull .integer
  | "INT8" => (cell.integer (.signed 64)).orNull .integer
  | "FLOAT4" => (cell.float 32).orNull floatValue
  | "FLOAT8" => (cell.float 64).orNull floatValue
  | "NUMERIC" => cell.decimal.orNull .text
  | "UUID" => cell.uuid.orNull .text
  | "TIMESTAMPTZ" => cell.instant.orNull .text
  | "TIMESTAMP" => cell.moment.orNull .text
  | "DATE" => cell.date.orNull .text
  | "JSON" | "JSONB" => cell.json.orNull id
  | name => cell.textValue name fun _ => "<" ++ name ++ ">"

/-- The value of a cell of MySQL. -/
def OpenCell.mySqlValue (cell : OpenCell) (typeName : String) : Except Halt Value :=
  match typeName with
  | "BOOLEAN" => cell.bool.orNull .bool
  | "TINYINT" | "SMALLINT" | "MEDIUMINT" | "INT" | "BIGINT" =>
      (cell.integer (.signed 64)).orNull .integer
  | "TINYINT UNSIGNED" | "SMALLINT UNSIGNED" | "MEDIUMINT UNSIGNED" | "INT UNSIGNED"
  | "BIGINT UNSIGNED" | "YEAR" => (cell.integer (.unsigned 64)).orNull .integer
  | "FLOAT" => (cell.float 32).orNull floatValue
  | "DOUBLE" => (cell.float 64).orNull floatValue
  | "DECIMAL" => cell.decimal.orNull .text
  | "TIMESTAMP" => cell.instant.orNull .text
  | "DATETIME" => cell.moment.orNull .text
  | "DATE" => cell.date.orNull .text
  | "TIME" => cell.clock.orNull .text
  | "JSON" => cell.json.orNull id
  | name => cell.textValue name fun bytes => "<" ++ toString bytes.length ++ " bytes>"

/-- The first text among those that a package makes of a cell, or null. -/
def firstText : List (Decoded (Option String)) → Except Halt Value
  | [] => .ok .null
  | text :: texts =>
      text.orElse (fun text => text.elim (firstText texts) fun text => .ok (.text text))
        (firstText texts)

/-- The value of a cell of SQL Server. -/
def TypedCell.value : TypedCell → Except Halt Value
  | .integer value => .ok (value.elim .null .integer)
  | .float value => .ok (value.elim .null floatValue)
  | .bit value => .ok (value.elim .null .bool)
  | .text value | .guid value | .numeric value => .ok (value.elim .null .text)
  | .binary value =>
      .ok (value.elim .null fun bytes => .text ("<" ++ toString bytes.length ++ " bytes>"))
  | .temporal texts => firstText texts

end QueryWarden.Targets
