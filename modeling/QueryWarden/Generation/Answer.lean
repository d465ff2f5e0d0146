import QueryWarden.Json.Decoder
import QueryWarden.Text.Trim

/-!
# Answers of a language model

The structured answer to a question: a query, an explanation and a proposed chart. The names of the
members are read leniently, since models spell them in several ways.
-/

namespace QueryWarden.Generation

open QueryWarden.Json QueryWarden.Text

/-- The kinds of chart that a result can be shown as. -/
inductive Chart where
  | table
  | bar
  | line
  | pie
  deriving DecidableEq, Repr

namespace Chart

instance : Inhabited Chart := ⟨table⟩

/-- The chart's name. -/
def name : Chart → String
  | .table => "Table"
  | .bar => "Bar"
  | .line => "Line"
  | .pie => "Pie"

/-- The chart that a name stands for when blanks around it and ASCII case are ignored; a table if
there is none. -/
def ofName (name : String) : Chart :=
  let lowered := asciiLower (trim name.toList)
  if lowered = "bar".toList then .bar
  else if lowered = "line".toList then .line
  else if lowered = "pie".toList then .pie
  else .table

end Chart

/-- A proposed chart. -/
structure Visualization where
  chart : Chart
  xAxisColumn : String
  yAxisColumns : List String
  title : String
  deriving DecidableEq, Repr, Inhabited

/-- A structured answer. -/
structure Answer where
  sqlQuery : String
  explanation : String
  visualization : Visualization
  deriving DecidableEq, Repr, Inhabited

/-- What the query of an answer starts with when it carries a failure instead. -/
def errorSentinel : String := "ERROR"

namespace Answer

/-- An answer that carries a failure. -/
def failure (sqlQuery explanation : String) : Answer :=
  ⟨sqlQuery, explanation, default⟩

/-- The answer carries a failure. -/
def isFailure (answer : Answer) : Bool :=
  errorSentinel.toList.isPrefixOf answer.sqlQuery.toList

end Answer

/-! ## Writing -/

/-- The object for a proposed chart. -/
def Visualization.toValue (visualization : Visualization) : Value :=
  .object [("chartType", .text visualization.chart.name),
    ("xAxisColumn", .text visualization.xAxisColumn),
    ("yAxisColumns", .ofTexts visualization.yAxisColumns),
    ("title", .text visualization.title)]

/-- The object for an answer. -/
def Answer.toValue (answer : Answer) : Value :=
  .object [("sqlQuery", .text answer.sqlQuery), ("explanation", .text answer.explanation),
    ("visualization", answer.visualization.toValue)]

/-! ## Reading -/

/-- Reads a chart's name; null is a table. -/
def chartDecoder : Decoder Chart := fun depth text =>
  (optionDecoder stringDecoder depth text).map fun (name?, rest) =>
    ((name?.map Chart.ofName).getD default, rest)

/-- The texts of a list that holds nothing else. -/
def allTexts? : List Value → Option (List String)
  | [] => some []
  | .text item :: items => (allTexts? items).map (item :: ·)
  | _ :: _ => none

/-- The columns that a value names: one, unless its name is empty, or those of a list of names. Any
other value names none. -/
def columnsOfValue : Value → List String
  | .text column => if column.isEmpty then [] else [column]
  | .list items => (allTexts? items).getD []
  | _ => []

/-- Reads one column or many. -/
def columnsDecoder : Decoder (List String) := fun depth text =>
  (anyDecoder depth text).map fun (value, rest) => (columnsOfValue value, rest)

/-- The shape of a proposed chart. -/
def visualizationShape : RecordShape Visualization :=
  ⟨"Visualization",
   [.optional "chartType" ["chart_type", "ChartType"] chartDecoder fun record chart =>
      { record with chart },
    .optional "xAxisColumn" ["x_axis_column", "XAxisColumn"] stringDecoder
      fun record xAxisColumn => { record with xAxisColumn },
    .optional "yAxisColumns" ["yAxisColumn", "y_axis_column", "YAxisColumn"] columnsDecoder
      fun record yAxisColumns => { record with yAxisColumns },
    .optional "title" ["Title"] stringDecoder fun record title => { record with title }]⟩

/-- The shape of an answer. -/
def answerShape : RecordShape Answer :=
  ⟨"GenerationResult",
   [.required "sqlQuery" ["sql_query", "SqlQuery", "sql"] stringDecoder
      fun record sqlQuery => { record with sqlQuery },
    .optional "explanation" ["Explanation"] (defaultDecoder stringDecoder)
      fun record explanation => { record with explanation },
    .optional "visualization" ["Visualization"]
      (defaultDecoder (visualizationShape.decoder default))
      fun record visualization => { record with visualization }]⟩

/-- Reads an answer. -/
def answerDecoder : Decoder Answer := answerShape.decoder default

end QueryWarden.Generation
