import QueryWarden.Sql.Dialect
import QueryWarden.Text.Pattern
import QueryWarden.Text.Trim

/-!
# The validator

The gate in front of every live connection: a list of rules, each of which either lets a query
pass or gives the reason it is refused. Everything is allowed that no rule refuses, and the first
rule broken gives the reason.
-/

namespace QueryWarden.Sql

open QueryWarden.Text

/-- Statements that change data, structure or permissions, in the order they are looked for. -/
def forbiddenKeywords : List String :=
  ["DROP", "DELETE", "UPDATE", "INSERT", "ALTER", "TRUNCATE", "CREATE", "GRANT", "REVOKE",
   "EXEC", "EXECUTE", "MERGE"]

/-- The verdict on one query. -/
structure Verdict where
  isValid : Bool
  reason : Option String
  deriving DecidableEq, Repr

namespace Verdict

/-- The query may run. -/
def valid : Verdict := ⟨true, none⟩

/-- The query is refused for a reason. -/
def rejected (reason : String) : Verdict := ⟨false, some reason⟩

end Verdict

/-- One entry of the rule table. -/
inductive Rule where
  /-- There is something besides blanks. -/
  | nonEmpty
  /-- No forbidden keyword stands as a whole word, in any case. -/
  | keywordBan
  /-- The trimmed query opens with its keyword and a blank. -/
  | prefixRequirement
  /-- No known dangerous construct occurs, in any case. -/
  | patternBan
  /-- Only a trailing run of semicolons is tolerated. -/
  | singleStatement
  /-- There is no comment marker. -/
  | noComments
  deriving DecidableEq, Repr

/-- The rule's name. -/
def Rule.name : Rule → String
  | .nonEmpty => "NonEmpty"
  | .keywordBan => "KeywordBan"
  | .prefixRequirement => "PrefixRequirement"
  | .patternBan => "PatternBan"
  | .singleStatement => "SingleStatement"
  | .noComments => "NoComments"

/-! ## Dangerous constructs -/

/-- Writing a result to the file kind named by `target`. -/
def intoFile (target : List Char) : Pattern Unit := fun before text => do
  guard (atWordStart before)
  let rest ← dropWord target (← dropSomeBlanks (← dropWord "into".toList text))
  if atWordEnd rest then some ((), rest) else none

/-- Blanks and an opening parenthesis. -/
def dropOpening (text : List Char) : Option (List Char) :=
  dropChar '(' (dropBlanks text)

/-- A call of any function whose name starts with `stem`. -/
def callWithStem (stem : List Char) : Pattern Unit := fun before text => do
  guard (atWordStart before)
  let rest ← dropWord stem text
  let rest ← dropOpening (rest.dropWhile isWordChar)
  some ((), rest)

/-- A call of one of the functions named `stem` followed by one of `endings`. -/
def callAmong (stem : List Char) (endings : List (List Char)) : Pattern Unit :=
  fun before text => do
    guard (atWordStart before)
    let rest ← dropWord stem text
    let rest ← endings.findSome? fun ending => (dropWord ending rest).bind dropOpening
    some ((), rest)

/-- A table source keyword and the blanks after it. -/
def dropTableSource (text : List Char) : Option (List Char) :=
  (dropAnyWord ["from".toList, "join".toList] text).bind dropSomeBlanks

/-- A quoted path used as a table. -/
def quotedPathSource : Pattern Unit := fun before text => do
  guard (atWordStart before)
  let rest ← dropChar '\'' (← dropTableSource text)
  some ((), rest)

/-- A character that a plain identifier does not need but a path does. -/
def isPathChar (c : Char) : Bool :=
  c == '.' || c == '/' || c == '\\'

/-- A quoted identifier that looks like a path, used as a table. -/
def pathIdentifierSource : Pattern Unit := fun before text => do
  guard (atWordStart before)
  let rest ← dropChar '"' (← dropTableSource text)
  if (rest.takeWhile (· != '"')).any isPathChar then
    let rest ← dropChar '"' (rest.dropWhile (· != '"'))
    some ((), rest)
  else none

/-- File access, dynamic statements, linked servers and scans of files. -/
def dangerousConstructs : List (Pattern Unit) :=
  [intoFile "outfile".toList,
   intoFile "dumpfile".toList,
   wholeWord "load_file".toList,
   wholeWord "xp_cmdshell".toList,
   wholeWord "sp_executesql".toList,
   wholeWord "openrowset".toList,
   wholeWord "openquery".toList,
   wholeWord "opendatasource".toList,
   wholeWord "pg_read_file".toList,
   wholeWord "pg_read_binary_file".toList,
   wholeWord "pg_ls_dir".toList,
   wholeWord "lo_import".toList,
   wholeWord "lo_export".toList,
   callWithStem "dblink".toList,
   callAmong "read_".toList
     ["csv".toList, "csv_auto".toList, "parquet".toList, "json".toList, "json_auto".toList,
      "ndjson".toList, "ndjson_auto".toList, "text".toList, "blob".toList],
   callAmong [] ["glob".toList, "parquet_scan".toList, "sniff_csv".toList],
   quotedPathSource,
   pathIdentifierSource]

/-- A character that the name of a new table may start with. -/
def startsTarget (c : Char) : Bool :=
  c == '#' || c == '@' || c == '[' || c == '"' || isWordChar c

/-- A result sent into a new table. An optional word for the kind of table is itself made of word
characters, so it needs no case of its own. -/
def intoTarget : Pattern Unit := fun before text => do
  guard (atWordStart before)
  match ← dropSomeBlanks (← dropWord "into".toList text) with
  | c :: rest => if startsTarget c then some ((), rest) else none
  | [] => none

/-- Blanks out what stands between single quotes and keeps the quotes. A doubled quote closes and
reopens the literal, which comes to the same. -/
def maskLiterals : Bool → List Char → List Char
  | _, [] => []
  | inside, c :: text =>
      if c = '\'' then c :: maskLiterals (!inside) text
      else (if inside then ' ' else c) :: maskLiterals inside text

/-! ## Rules -/

/-- The query trimmed opens with its keyword and a blank. -/
def opensWithSelect (sql : List Char) : Bool :=
  ((dropWord "select".toList (trim sql)).bind dropSomeBlanks).isSome

/-- A semicolon stands before something other than semicolons and blanks. -/
def hasInnerSemicolon (sql : List Char) : Bool :=
  (dropEndWhile (fun c => c == ';' || isBlank c) sql).contains ';'

/-- Why the query breaks the rule, if it does. -/
def Rule.check (rule : Rule) (sql : List Char) : Option String :=
  match rule with
  | .nonEmpty => if isBlankText sql then some "query cannot be empty" else none
  | .keywordBan =>
      (forbiddenKeywords.find? fun keyword =>
          (wholeWord (asciiLower keyword.toList)).occursIn sql).map
        fun keyword => "query contains forbidden keyword: " ++ keyword
  | .prefixRequirement =>
      if opensWithSelect sql then none else some "query must start with SELECT"
  | .patternBan =>
      if (dangerousConstructs.any fun construct => construct.occursIn sql) ||
          intoTarget.occursIn (maskLiterals false sql) then
        some "query contains potentially dangerous operations"
      else none
  | .singleStatement =>
      if hasInnerSemicolon sql then some "query contains multiple statements" else none
  | .noComments =>
      if hasInfix "--".toList sql || hasInfix "/*".toList sql then
        some "query contains SQL comments"
      else none

/-- A list of rules, checked in order. -/
structure Validator where
  rules : List Rule
  deriving DecidableEq, Repr

namespace Validator

/-- Emptiness, keywords, the leading keyword and dangerous constructs. -/
def standard : Validator :=
  ⟨[.nonEmpty, .keywordBan, .prefixRequirement, .patternBan]⟩

/-- The same validator with one more rule at the end. -/
def withRule (validator : Validator) (rule : Rule) : Validator :=
  ⟨validator.rules ++ [rule]⟩

/-- The standard rules, and also one statement only and no comments. -/
def strict : Validator :=
  (standard.withRule .singleStatement).withRule .noComments

/-- The validator that a configuration asks for. -/
def ofStrictness (isStrict : Bool) : Validator :=
  if isStrict then strict else standard

instance : Inhabited Validator := ⟨strict⟩

/-- The verdict on a text: the first rule broken gives the reason. -/
def validateText (validator : Validator) (sql : List Char) : Verdict :=
  match validator.rules.findSome? fun rule => rule.check sql with
  | some reason => .rejected reason
  | none => .valid

/-- The verdict on a query. No rule depends on the dialect. -/
def validate (validator : Validator) (sql : String) (_dialect : Dialect) : Verdict :=
  validator.validateText sql.toList

end Validator

end QueryWarden.Sql
