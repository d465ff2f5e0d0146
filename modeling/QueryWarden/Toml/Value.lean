/-!
# TOML values

What a TOML document holds. Keys of a table keep the order of the document and are distinct.
-/

namespace QueryWarden.Toml

/-- A key. -/
abbrev Key := List Char

/-- A value. Dates and times are kept in their normal form. -/
inductive Value where
  | text (value : List Char)
  | integer (value : Int)
  | float (value : Float)
  | bool (value : Bool)
  | moment (value : List Char)
  | list (items : List Value)
  | table (members : List (Key × Value))

end QueryWarden.Toml
