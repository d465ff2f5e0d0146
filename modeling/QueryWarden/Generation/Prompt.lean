import QueryWarden.Json.Value
import QueryWarden.Schema.Snapshot
import QueryWarden.Sql.Dialect

/-!
# Prompts

The two texts that instruct a language model: one to answer a question with a query, one to suggest
questions. Names and hints of the dialect and the schema's text are put in as they are.
-/

namespace QueryWarden.Generation

open QueryWarden.Json QueryWarden.Schema QueryWarden.Sql

/-- What a model is sent: the instructions and the user's turn. -/
structure Prompt where
  system : String
  user : String
  deriving DecidableEq, Repr

/-- A question with the answer that a model should have given. -/
structure Example where
  question : String
  answer : Value

/-- The answer of an example. -/
def exampleAnswer (sqlQuery explanation chart xAxisColumn yAxisColumn title : String) : Value :=
  .object [("sqlQuery", .text sqlQuery), ("explanation", .text explanation),
    ("visualization", .object [("chartType", .text chart), ("xAxisColumn", .text xAxisColumn),
      ("yAxisColumn", .text yAxisColumn), ("title", .text title)])]

/-- The examples that a model is shown, in the generic dialect. -/
def examples : List Example :=
  [⟨"Show me the top 5 customers by total order amount in the last year",
    exampleAnswer
      ("SELECT CUSTOMER.FIRST_NAME, CUSTOMER.LAST_NAME, SUM(ORDERS.TOTAL_AMOUNT) AS TotalSpent " ++
        "FROM CUSTOMER JOIN ORDERS ON CUSTOMER.ID = ORDERS.CUSTOMER_ID " ++
        "WHERE EXTRACT(YEAR FROM ORDERS.ORDER_DATE) >= EXTRACT(YEAR FROM NOW()) - 1 " ++
        "GROUP BY CUSTOMER.FIRST_NAME, CUSTOMER.LAST_NAME ORDER BY TotalSpent DESC LIMIT 5")
      ("Joins customers with their orders, keeps orders from the last year, " ++
        "sums the amount per customer and returns the five biggest spenders.")
      "Bar" "FIRST_NAME" "TotalSpent" "Top 5 Customers by Spending (Last Year)"⟩,
   ⟨"How many orders were completed each month this year?",
    exampleAnswer
      ("SELECT EXTRACT(MONTH FROM ORDERS.FINISHED_DATE) AS Month, COUNT(*) AS OrderCount " ++
        "FROM ORDERS WHERE ORDERS.IS_FINISHED = 1 " ++
        "AND EXTRACT(YEAR FROM ORDERS.FINISHED_DATE) = EXTRACT(YEAR FROM NOW()) " ++
        "GROUP BY EXTRACT(MONTH FROM ORDERS.FINISHED_DATE) ORDER BY Month")
      "Counts finished orders per month of the current year."
      "Line" "Month" "OrderCount" "Monthly Completed Orders (Current Year)"⟩]

/-- The paragraph for an example. -/
def Example.paragraph (shown : Example) : String :=
  "\nUser: \"" ++ shown.question ++ "\"\nAssistant: " ++ shown.answer.compact ++ "\n"

/-- The instructions for answering a question with a query. -/
def generationPrompt (snapshot : Snapshot) (dialect : Dialect) : String :=
  let name := dialect.displayName
  "You are an expert SQL assistant. Your goal is to convert natural language questions into " ++
    "accurate SQL queries for " ++ name ++ ".\n\n" ++
    "Schema:\n" ++ snapshot.promptText ++ "\nExamples:\n" ++
    String.join (examples.map Example.paragraph) ++
    "\nRules:\n" ++
    "1. Generate a valid SQL query for " ++ name ++ ".\n" ++
    "2. The query must be a single SELECT statement only. " ++
    "No INSERT, UPDATE, DELETE, DROP, etc.\n" ++
    "3. CRITICAL: USE ONLY THE EXACT TABLE AND COLUMN NAMES PROVIDED IN THE SCHEMA ABOVE.\n" ++
    "4. Always use the format TABLE_NAME.COLUMN_NAME when referencing columns " ++
    "to avoid ambiguity.\n" ++
    "5. If a column name is not listed under a specific table in the schema, " ++
    "DO NOT USE IT for that table.\n" ++
    "6. Double-check that every column you use exists in the table you're querying.\n" ++
    "7. Do not add SQL comments.\n" ++
    "8. Use " ++ name ++ " syntax:\n" ++
    String.join (dialect.hints.map fun hint => "   - " ++ hint ++ "\n") ++
    "9. Provide a brief explanation of the query.\n" ++
    "10. Recommend the best visualization for the result (Table, Bar, Line, Pie).\n" ++
    "   - If the result is time-series, suggest 'Line'.\n" ++
    "   - If comparing categories, suggest 'Bar'.\n" ++
    "   - If parts of a whole, suggest 'Pie'.\n" ++
    "   - Otherwise, default to 'Table'.\n" ++
    "   - Identify the X-axis (category/time) and Y-axis (value) columns.\n\n" ++
    "Output Format:\n" ++
    "Return ONLY a JSON object with the following structure:\n" ++
    "\x7b\n" ++
    "    \"sqlQuery\": \"SELECT ...\",\n" ++
    "    \"explanation\": \"...\",\n" ++
    "    \"visualization\": \x7b\n" ++
    "        \"chartType\": \"Bar\",\n" ++
    "        \"xAxisColumn\": \"ColumnName\",\n" ++
    "        \"yAxisColumn\": \"ColumnName\",\n" ++
    "        \"title\": \"Chart Title\"\n" ++
    "    \x7d\n" ++
    "\x7d"

/-- How many questions are asked for. -/
def suggestionCount : Nat := 3

/-- The instructions for suggesting questions. -/
def suggestionPrompt (snapshot : Snapshot) (dialect : Dialect) : String :=
  "You are a data analyst. Based on the " ++ dialect.displayName ++
    " database schema below, suggest " ++ toString suggestionCount ++
    " interesting questions that a user might ask to explore the data.\n\n" ++
    "Schema:\n" ++ snapshot.promptText ++
    "\nOutput Format:\n" ++
    "Return ONLY a JSON array of strings:\n" ++
    "[\"Question 1?\", \"Question 2?\", \"Question 3?\"]"

end QueryWarden.Generation
