import QueryWarden.Sql.Dialect
import QueryWarden.Text.Pattern
import QueryWarden.Text.Trim

/-!
# Adapting generic SQL to a dialect

A query written in the generic dialect is brought into SQL Server's by a fixed sequence of textual
rules; the other dialects take it as it is. The rules match shapes and do not parse, so the output
is only as correct as the input's resemblance to the shapes.
-/

namespace QueryWarden.Sql

open QueryWarden.Text

/-- A function that SQL Server knows under another name. -/
inductive RenamedFunction where
  | currentTime
  | nullCoalesce
  | substring
  deriving DecidableEq, Repr

/-- A single textual adjustment. -/
inductive Adjustment where
  /-- Row limits: a limit with an offset, or else a bare limit. -/
  | pagination
  /-- The new name of a function, at every call. -/
  | rename (function : RenamedFunction)
  /-- A year, month or day extracted from a date, at every call. -/
  | extractDatePart
  /-- The first concatenation call, as a sum. -/
  | concatToPlus
  /-- Back-quoted identifiers, in square brackets. -/
  | backtickToBracket
  deriving DecidableEq, Repr

/-! ## Shapes -/

/-- A row limit, then blanks, then its count: gives the count. -/
def limitClause (before : Option Char) (text : List Char) : Option (List Char × List Char) := do
  guard (atWordStart before)
  let rest ← dropWord "limit".toList text
  takeDigits (← dropSomeBlanks rest)

/-- A row limit followed by an offset: gives both counts. -/
def limitOffset : Pattern (List Char × List Char) := fun before text => do
  let (limit, rest) ← limitClause before text
  let rest ← dropWord "offset".toList (← dropSomeBlanks rest)
  let (offset, rest) ← takeDigits (← dropSomeBlanks rest)
  some ((limit, offset), rest)

/-- A row limit together with the blanks before it: gives the count. -/
def bareLimit : Pattern (List Char) := fun before text =>
  match text with
  | [] => none
  | c :: _ => limitClause (if isBlank c then some c else before) (dropBlanks text)

/-- The leading keyword of a query, as a whole word at the very start. -/
def dropLeadingSelect (text : List Char) : Option (List Char) :=
  match dropWord "select".toList text with
  | some rest => if atWordEnd rest then some rest else none
  | none => none

/-- The word that opens SQL Server's own row limit. -/
def topWord : Pattern Unit := wholeWord "top".toList

/-- A call of `name`, up to and including the text `opening`. -/
def callOf (name opening : List Char) : Pattern Unit := fun before text => do
  guard (atWordStart before)
  let rest ← dropExact opening (← dropWord name text)
  some ((), rest)

/-- The date parts that have a function of their own. -/
def dateParts : List (List Char) :=
  ["year".toList, "month".toList, "day".toList]

/-- Blanks, then an argument that runs to the next closing parenthesis. When only blanks stand
there the last of them is the argument. -/
def takeArgument (text : List Char) : Option (List Char × List Char) :=
  let blanks := text.takeWhile isBlank
  let argument := (text.dropWhile isBlank).takeWhile (· != ')')
  match (text.dropWhile isBlank).dropWhile (· != ')') with
  | [] => none
  | _ :: rest =>
      match argument, blanks with
      | _ :: _, _ :: _ => some (argument, rest)
      | [], _ :: second :: more => some ([(second :: more).getLast (by simp)], rest)
      | _, _ => none

/-- An extraction of a date part: gives the part as written and the argument. -/
def extractCall : Pattern (List Char × List Char) := fun before text => do
  guard (atWordStart before)
  let rest ← dropChar '(' (← dropWord "extract".toList text)
  let rest := dropBlanks rest
  let afterPart ← dropAnyWord dateParts rest
  let part := rest.take (rest.length - afterPart.length)
  let afterFrom ← dropWord "from".toList (← dropSomeBlanks afterPart)
  let (argument, rest) ← takeArgument afterFrom
  some ((part, argument), rest)

/-- A concatenation up to the first closing parenthesis: gives what stands between. -/
def concatCall : Pattern (List Char) := fun before text => do
  guard (atWordStart before)
  let rest ← dropChar '(' (← dropWord "concat".toList text)
  match rest.takeWhile (· != ')'), rest.dropWhile (· != ')') with
  | c :: inner, _ :: rest => some (c :: inner, rest)
  | _, _ => none

/-! ## Rules -/

/-- The call that is renamed. -/
def RenamedFunction.pattern : RenamedFunction → Pattern Unit
  | .currentTime => callOf "now".toList "()".toList
  | .nullCoalesce => callOf "ifnull".toList "(".toList
  | .substring => callOf "substr".toList "(".toList

/-- What is written in its place. -/
def RenamedFunction.replacement : RenamedFunction → List Char
  | .currentTime => "GETDATE()".toList
  | .nullCoalesce => "ISNULL(".toList
  | .substring => "SUBSTRING(".toList

/-- A limit with an offset in SQL Server's words. -/
def fetchClause (counts : List Char × List Char) : List Char :=
  "OFFSET ".toList ++ counts.2 ++ " ROWS FETCH NEXT ".toList ++ counts.1 ++ " ROWS ONLY".toList

/-- Limits with an offset are adjusted where they stand. Failing those, a bare limit moves to the
front of a query that starts with its keyword and has no row limit of SQL Server's own. -/
def adjustPagination (sql : List Char) : List Char :=
  if limitOffset.occursIn sql then limitOffset.replaceAll fetchClause sql
  else
    match bareLimit.first sql with
    | none => sql
    | some limit =>
        if topWord.occursIn sql || (dropLeadingSelect (trimStart sql)).isNone then sql
        else
          let stripped := trim (bareLimit.replaceAll (fun _ => []) sql)
          match dropLeadingSelect stripped with
          | some rest => "SELECT TOP ".toList ++ limit ++ rest
          | none => stripped

/-- The arguments of a concatenation, trimmed and added up in parentheses. -/
def sumOfArguments (inner : List Char) : List Char :=
  '(' :: joinWith " + ".toList ((splitWhere (· == ',') inner).map trim) ++ [')']

/-- The call of the function named after the date part. -/
def datePartCall (call : List Char × List Char) : List Char :=
  call.1 ++ '(' :: call.2 ++ [')']

/-- Back quotes become brackets, an opening one first and then in turn. -/
def alternateBrackets : Bool → List Char → List Char
  | _, [] => []
  | inside, c :: text =>
      if c = '\x60' then (if inside then ']' else '[') :: alternateBrackets (!inside) text
      else c :: alternateBrackets inside text

/-- The text after one rule. -/
def Adjustment.apply : Adjustment → List Char → List Char
  | .pagination => adjustPagination
  | .rename function => function.pattern.replaceAll fun _ => function.replacement
  | .extractDatePart => extractCall.replaceAll datePartCall
  | .concatToPlus => concatCall.replaceFirst sumOfArguments
  | .backtickToBracket => alternateBrackets false

/-- The rules that bring generic SQL into a dialect, in the order they are applied. -/
def adjustments : Dialect → List Adjustment
  | .sqlServer =>
      [.pagination, .rename .currentTime, .rename .nullCoalesce, .rename .substring,
       .extractDatePart, .concatToPlus, .backtickToBracket]
  | .postgreSql | .mySql | .duckDb => []

/-- The text after the rules of a dialect, one after the other. -/
def adaptText (sql : List Char) (dialect : Dialect) : List Char :=
  (adjustments dialect).foldl (fun text rule => rule.apply text) sql

/-- Brings a generic query into a dialect. -/
def adapt (sql : String) (dialect : Dialect) : String :=
  String.ofList (adaptText sql.toList dialect)

end QueryWarden.Sql
