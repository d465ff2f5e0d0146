import QueryWarden.Database.QueryResult
import QueryWarden.Embedded.Table
import QueryWarden.Text.Numeral

/-!
# Queries over embedded databases

A small part of the engine's query language: one select of literals, columns, everything or a count,
over one table or over number ranges, with a comparison, an order and a limit. What lies outside it
is refused.
-/

namespace QueryWarden.Embedded

open QueryWarden.Database QueryWarden.Json QueryWarden.Schema QueryWarden.Text

/-! ## Tokens -/

/-- A token of a query. Words are kept as written; quoted names lose their quotes. -/
inductive Token where
  | word (text : List Char)
  | name (text : List Char)
  | literal (text : List Char)
  | number (value : Nat)
  | mark (c : Char)
  deriving DecidableEq, Repr

/-- The text up to a closing quote; a doubled quote stands for one. -/
def readQuoted (quote : Char) : Nat → List Char → List Char → Option (List Char × List Char)
  | 0, _, _ | _ + 1, [], _ => none
  | fuel + 1, c :: text, before =>
      if c = quote then
        if text.head? = some quote then readQuoted quote fuel (text.drop 1) (quote :: before)
        else some (before.reverse, text)
      else readQuoted quote fuel text (c :: before)

/-- A character that may start a word. -/
def startsWord (c : Char) : Bool := c.isAlpha || c == '_' || decide (128 ≤ c.toNat)

/-- A character that may go on in a word. -/
def continuesWord (c : Char) : Bool := startsWord c || c.isDigit

/-- The tokens of a query. -/
def tokenize : Nat → List Char → Option (List Token)
  | 0, _ => none
  | _ + 1, [] => some []
  | fuel + 1, c :: text =>
      if c = ' ' || c = '\n' || c = '\t' || c = '\r' then tokenize fuel text
      else if c = '\'' then do
        let (literal, rest) ← readQuoted '\'' (text.length + 1) text []
        some (.literal literal :: (← tokenize fuel rest))
      else if c = '"' then do
        let (name, rest) ← readQuoted '"' (text.length + 1) text []
        some (.name name :: (← tokenize fuel rest))
      else if c.isDigit then do
        let digits := (c :: text).takeWhile Char.isDigit
        some (.number (← readNat? digits) :: (← tokenize fuel ((c :: text).drop digits.length)))
      else if startsWord c then do
        let word := (c :: text).takeWhile continuesWord
        some (.word word :: (← tokenize fuel ((c :: text).drop word.length)))
      else do some (.mark c :: (← tokenize fuel text))

/-! ## Queries -/

/-- What a select gives for a row. -/
inductive Expression where
  | constant (value : Value)
  | column (name : List Char)
  | everything
  | count

/-- A selected expression and the name it is given. -/
structure Selected where
  expression : Expression
  title : Option (List Char)

/-- Where rows come from. -/
inductive Source where
  | table (space : Option (List Char)) (name : List Char)
  | range (size : Nat)

/-- A comparison of a column with a number. -/
structure Condition where
  column : List Char
  comparison : Char
  bound : Int

/-- A query. -/
structure Select where
  selected : List Selected
  sources : List Source
  condition : Option Condition
  order : Option (List Char × Bool)
  limit : Option Nat

/-- The token is a keyword. -/
def isKeyword (keyword : String) : Token → Bool
  | .word text => asciiLower text == keyword.toList
  | _ => false

/-- The words that end an expression or a name. -/
def reserved : List String :=
  ["select", "from", "where", "order", "by", "limit", "as", "asc", "desc", "and", "or", "not"]

/-- A name of a column or a table. -/
def identifier? : Token → Option (List Char)
  | .name text => some text
  | .word text =>
      if reserved.any fun word => asciiLower text == word.toList then none else some text
  | _ => none

/-- Drops a keyword. -/
def expectKeyword (keyword : String) : List Token → Option (List Token)
  | token :: tokens => if isKeyword keyword token then some tokens else none
  | [] => none

/-- Reads a selected expression without its name. -/
def readExpression : List Token → Option (Expression × List Token)
  | .mark '*' :: tokens => some (.everything, tokens)
  | .mark '-' :: .number value :: tokens => some (.constant (.integer (-value)), tokens)
  | .number value :: tokens => some (.constant (.integer value), tokens)
  | .literal text :: tokens => some (.constant (.text (String.ofList text)), tokens)
  | token :: tokens =>
      if isKeyword "null" token then some (.constant .null, tokens)
      else if isKeyword "true" token then some (.constant (.bool true), tokens)
      else if isKeyword "false" token then some (.constant (.bool false), tokens)
      else
        match isKeyword "count" token, tokens with
        | true, .mark '(' :: .mark '*' :: .mark ')' :: rest => some (.count, rest)
        | _, .mark '(' :: _ => none
        | _, _ => (identifier? token).map fun name => (.column name, tokens)
  | [] => none

/-- Reads the selected expressions; `fuel` bounds their number. -/
def readSelected : Nat → List Token → Option (List Selected × List Token)
  | 0, _ => none
  | fuel + 1, tokens => do
      let (expression, rest) ← readExpression tokens
      let (title, rest) ←
        match rest with
        | token :: more =>
            if isKeyword "as" token then
              match more with
              | name :: more => (identifier? name).map fun name => (some name, more)
              | [] => none
            else
              match identifier? token with
              | some name => some (some name, more)
              | none => some (none, rest)
        | [] => some (none, rest)
      match rest with
      | .mark ',' :: rest =>
          let (others, rest) ← readSelected fuel rest
          some (⟨expression, title⟩ :: others, rest)
      | _ => some ([⟨expression, title⟩], rest)

/-- Reads the sources of rows; `fuel` bounds their number. -/
def readSources : Nat → List Token → Option (List Source × List Token)
  | 0, _ => none
  | fuel + 1, tokens => do
      let (source, rest) ←
        match tokens with
        | token :: .mark '(' :: .number size :: .mark ')' :: rest =>
            if isKeyword "range" token then some (Source.range size, rest) else none
        | space :: .mark '.' :: name :: rest => do
            some (Source.table (some (← identifier? space)) (← identifier? name), rest)
        | name :: rest => (identifier? name).map fun name => (Source.table none name, rest)
        | [] => none
      let rest :=
        match rest with
        | token :: more => if (identifier? token).isSome then more else rest
        | [] => rest
      match rest with
      | .mark ',' :: rest =>
          let (others, rest) ← readSources fuel rest
          some (source :: others, rest)
      | _ => some ([source], rest)

/-- Reads a condition. One over several sources is passed over, since none of them is looked at. -/
def readCondition (isSimple : Bool) (tokens : List Token) :
    Option (Option Condition × List Token) :=
  match tokens with
  | token :: rest =>
      if !isKeyword "where" token then some (none, tokens)
      else if !isSimple then
        some (none, rest.dropWhile fun token =>
          !isKeyword "order" token && !isKeyword "limit" token && token != .mark ';')
      else
        match rest with
        | column :: .mark comparison :: .mark '-' :: .number bound :: rest => do
            some (some ⟨← identifier? column, comparison, -bound⟩, rest)
        | column :: .mark comparison :: .number bound :: rest => do
            some (some ⟨← identifier? column, comparison, bound⟩, rest)
        | _ => none
  | [] => some (none, [])

/-- Reads the column to order by and whether it descends. -/
def readOrder (tokens : List Token) : Option (Option (List Char × Bool) × List Token) :=
  match tokens with
  | token :: rest =>
      if !isKeyword "order" token then some (none, tokens)
      else do
        match ← expectKeyword "by" rest with
        | column :: rest =>
            let column ← identifier? column
            match rest with
            | direction :: more =>
                if isKeyword "desc" direction then some (some (column, true), more)
                else if isKeyword "asc" direction then some (some (column, false), more)
                else some (some (column, false), rest)
            | [] => some (some (column, false), [])
        | [] => none
  | [] => some (none, [])

/-- Reads a limit. -/
def readLimit (tokens : List Token) : Option (Option Nat × List Token) :=
  match tokens with
  | token :: rest =>
      if !isKeyword "limit" token then some (none, tokens)
      else
        match rest with
        | .number limit :: rest => some (some limit, rest)
        | _ => none
  | [] => some (none, [])

/-- Reads a query, which semicolons may follow. -/
def Select.parse? (sql : List Char) : Option Select := do
  let tokens ← tokenize (sql.length + 1) sql
  let tokens ← expectKeyword "select" tokens
  let (selected, tokens) ← readSelected (tokens.length + 1) tokens
  let (sources, tokens) ←
    match tokens with
    | token :: rest =>
        if isKeyword "from" token then readSources (rest.length + 1) rest else some ([], tokens)
    | [] => some ([], [])
  let (condition, tokens) ← readCondition (sources.length ≤ 1) tokens
  let (order, tokens) ← readOrder tokens
  let (limit, tokens) ← readLimit tokens
  guard (tokens.all (· == .mark ';'))
  some ⟨selected, sources, condition, order, limit⟩

/-! ## Answers -/

/-- How a query ends. -/
inductive Outcome where
  | result (result : QueryResult)
  | refused
  /-- There are too many rows to ever be done with them. -/
  | endless

/-- Columns and rows under way. -/
structure Relation where
  columns : List String
  rows : List (List Value)

/-- The number of rows beyond which no query comes to an end. -/
def endlessSize : Nat := Nat.pow 10 12

/-- Two names are the same. -/
def sameName (left right : List Char) : Bool :=
  asciiLower left == asciiLower right

/-- The table of a name, in the main namespace unless another is named. -/
def EmbeddedDatabase.find? (database : EmbeddedDatabase) (space : Option (List Char))
    (name : List Char) : Option StoredTable :=
  database.tables.find? fun table =>
    sameName table.shape.name.toList name &&
      sameName table.shape.space.toList (space.getD "main".toList)

/-- The place of a column. -/
def Relation.index? (relation : Relation) (name : List Char) : Option Nat :=
  relation.columns.findIdx? fun column => sameName column.toList name

/-- The value fulfils the comparison. Null fulfils none. -/
def Condition.holds (condition : Condition) (value : Value) : Bool :=
  match value with
  | .integer value =>
      if condition.comparison = '<' then decide (value < condition.bound)
      else if condition.comparison = '>' then decide (condition.bound < value)
      else value == condition.bound
  | .float value =>
      let bound := Float.ofInt condition.bound
      if condition.comparison = '<' then decide (value < bound)
      else if condition.comparison = '>' then decide (bound < value)
      else value == bound
  | _ => false

/-- The order of two values of one column. -/
def valueBefore (left right : Value) : Bool :=
  match left, right with
  | .integer left, .integer right => decide (left ≤ right)
  | .float left, .float right => decide (left ≤ right)
  | .text left, .text right => !textLess right.toList left.toList
  | .bool left, .bool right => !left || right
  | _, _ => true

/-- The order of rows by a column; rows without a value come last. -/
def rowBefore (index : Nat) (isDescending : Bool) (left right : List Value) : Bool :=
  match left.getD index .null, right.getD index .null with
  | _, .null => true
  | .null, _ => false
  | left, right => if isDescending then valueBefore right left else valueBefore left right

/-- The name of a column without a title. -/
def Expression.title (expression : Expression) (column : String) : String :=
  match expression with
  | .constant .null => "NULL"
  | .constant (.bool true) => "CAST('t' AS BOOLEAN)"
  | .constant (.bool false) => "CAST('f' AS BOOLEAN)"
  | .constant (.text text) => "'" ++ text ++ "'"
  | .constant value => value.compact
  | .count => "count_star()"
  | .column _ | .everything => column

/-- The columns that an expression gives: their names and how to take them from a row. -/
def Relation.columnsOf (relation : Relation) (selected : Selected) :
    Option (List (String × (List Value → Value))) :=
  let titled (column : String) : String :=
    (selected.title.map String.ofList).getD (selected.expression.title column)
  match selected.expression with
  | .everything =>
      if relation.columns.isEmpty then none
      else
        some (relation.columns.zipIdx.map fun (column, index) =>
          (column, fun row => row.getD index .null))
  | .column name => do
      let index ← relation.index? name
      some [(titled (relation.columns.getD index ""), fun row => row.getD index .null)]
  | .constant value => some [(titled "", fun _ => value)]
  | .count => some [(titled "", fun _ => .integer relation.rows.length)]

/-- The answer to a query over given rows. -/
def Select.over (query : Select) (relation : Relation) : Option QueryResult := do
  let filtered ←
    match query.condition with
    | none => some relation.rows
    | some condition => do
        let index ← relation.index? condition.column
        some (relation.rows.filter fun row => condition.holds (row.getD index .null))
  let ordered ←
    match query.order with
    | none => some filtered
    | some (column, isDescending) => do
        let index ← relation.index? column
        some (filtered.mergeSort (rowBefore index isDescending))
  let isCount := query.selected.any fun selected =>
    match selected.expression with
    | .count => true
    | _ => false
  let relation := { relation with rows := ordered }
  let columns := (← query.selected.mapM relation.columnsOf).flatten
  let rows := if isCount then [[]] else ordered
  let rows := (query.limit.map rows.take).getD rows
  some (.ofCells (columns.map Prod.fst) (rows.map fun row => columns.map fun (_, take) => take row))

/-- The answer to a query over a database. -/
def EmbeddedDatabase.run (database : EmbeddedDatabase) (sql : String) : Outcome :=
  let ofOption (result? : Option QueryResult) : Outcome :=
    (result?.map Outcome.result).getD .refused
  match Select.parse? sql.toList with
  | none => .refused
  | some query =>
      match query.sources with
      | [] => ofOption (query.over ⟨[], [[]]⟩)
      | [.table space name] =>
          ofOption do
            let table ← database.find? space name
            query.over ⟨table.shape.columns.map Column.name, table.rows⟩
      | sources =>
          let size := (sources.map fun | .range size => size | .table .. => 0).foldl (· * ·) 1
          if endlessSize ≤ size then .endless else .refused

end QueryWarden.Embedded
