import QueryWarden.Schema.Snapshot
import QueryWarden.Text.Trim
import QueryWarden.Text.Uppercase

/-!
# Tables relevant to a question

Before a question goes to a language model the schema is narrowed to the tables that share a word
with it. A question that matches nothing still gets some tables to choose from.
-/

namespace QueryWarden.Schema

open QueryWarden.Text

/-- How many tables are kept when nothing in the question matches. -/
def fallbackTableCount : Nat := 20

/-- The most tables that are kept when something matches. -/
def maxRelevantTables : Nat := 40

/-- The marks, besides blanks, that end a word of a question. -/
def isDelimiter (c : Char) : Bool :=
  isBlank c || [',', '.', '?', '!', '(', ')', '[', ']', '\x7b', '\x7d'].contains c

/-- The words of a question longer than two characters, in upper case. -/
def keywordTexts (question : List Char) : List (List Char) :=
  ((splitWhere isDelimiter question).filter fun word => decide (2 < word.length)).map uppercase

/-- The words of a question longer than two characters, in upper case. -/
def keywords (question : String) : List String :=
  (keywordTexts question.toList).map String.ofList

/-- A name contains a keyword or is contained in one, when case is ignored. -/
def overlaps (words : List (List Char)) (name : String) : Bool :=
  let name := uppercase name.toList
  words.any fun word => hasInfix word name || hasInfix name word

/-- The table or one of its columns has a name that overlaps a keyword. -/
def Table.isRelevant (words : List (List Char)) (table : Table) : Bool :=
  overlaps words table.name || table.columns.any fun column => overlaps words column.name

/-- The tables relevant to a question, in their order. -/
def Snapshot.relevantTo (snapshot : Snapshot) (question : String) : Snapshot :=
  let words := keywordTexts question.toList
  match snapshot.tables.filter (Table.isRelevant words) with
  | [] => ⟨snapshot.tables.take fallbackTableCount⟩
  | tables => ⟨tables.take maxRelevantTables⟩

end QueryWarden.Schema
