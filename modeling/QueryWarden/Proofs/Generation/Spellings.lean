import QueryWarden.Proofs.Generation.Recovery
import QueryWarden.Proofs.Json.Consumption
import QueryWarden.Proofs.Json.Objects

/-!
# Spellings of the names in an answer

Models write the names of an answer in camel case, in snake case or in Pascal case. Every choice of
spellings is read alike but for one name: the columns of a chart are known in camel case only, and
under their other spellings they are passed over like a member that nobody asked for.
-/

namespace QueryWarden.Generation

open QueryWarden.Json

/-! ## Names -/

/-- The names of several words in an answer and in its proposed chart. -/
inductive Key where
  | sqlQuery
  | explanation
  | visualization
  | chartType
  | xAxisColumn
  | yAxisColumns
  | title
  deriving DecidableEq, Repr

/-- The words of a name. -/
def Key.words : Key → List (List Char)
  | .sqlQuery => ["sql".toList, "query".toList]
  | .explanation => ["explanation".toList]
  | .visualization => ["visualization".toList]
  | .chartType => ["chart".toList, "type".toList]
  | .xAxisColumn => ["x".toList, "axis".toList, "column".toList]
  | .yAxisColumns => ["y".toList, "axis".toList, "columns".toList]
  | .title => ["title".toList]

/-- The ways to make one name of several words. -/
inductive Spelling where
  | camel
  | snake
  | pascal
  deriving DecidableEq, Repr

/-- The word with its first letter in upper case. -/
def capitalized : List Char → List Char
  | [] => []
  | c :: word => c.toUpper :: word

/-- The name that the words make. -/
def Spelling.join : Spelling → List (List Char) → List Char
  | .camel, [] => []
  | .camel, word :: words => word ++ words.flatMap capitalized
  | .snake, words => ['_'].intercalate words
  | .pascal, words => words.flatMap capitalized

example : Spelling.camel.join Key.xAxisColumn.words = "xAxisColumn".toList ∧
    Spelling.snake.join Key.xAxisColumn.words = "x_axis_column".toList ∧
    Spelling.pascal.join Key.xAxisColumn.words = "XAxisColumn".toList := by decide

/-- A choice of a spelling for each name. -/
abbrev Spellings := Key → Spelling

/-- The name as it is spelled by choice. -/
def Spellings.name (spellings : Spellings) (key : Key) : List Char :=
  (spellings key).join key.words

/-- The fields of an answer are known under every spelling of their names. -/
theorem fieldIndex?_answer (spelling : Spelling) :
    fieldIndex? answerShape.fields (spelling.join Key.sqlQuery.words) = some 0 ∧
      fieldIndex? answerShape.fields (spelling.join Key.explanation.words) = some 1 ∧
      fieldIndex? answerShape.fields (spelling.join Key.visualization.words) = some 2 := by
  cases spelling <;> decide +kernel

/-- So are the fields of a chart, except for its columns. -/
theorem fieldIndex?_visualization (spelling : Spelling) :
    fieldIndex? visualizationShape.fields (spelling.join Key.chartType.words) = some 0 ∧
      fieldIndex? visualizationShape.fields (spelling.join Key.xAxisColumn.words) = some 1 ∧
      fieldIndex? visualizationShape.fields (spelling.join Key.title.words) = some 3 := by
  cases spelling <;> decide +kernel

theorem fieldIndex?_columns (spelling : Spelling) :
    fieldIndex? visualizationShape.fields (spelling.join Key.yAxisColumns.words) =
      if spelling = .camel then some 2 else none := by
  cases spelling <;> decide +kernel

/-! ## Texts -/

/-- The members of the object for a chart, spelled by choice. -/
def Visualization.forms (spellings : Spellings) (visualization : Visualization) : List NamedForm :=
  [⟨spellings.name .chartType, StringText visualization.chart.name⟩,
    ⟨spellings.name .xAxisColumn, StringText visualization.xAxisColumn⟩,
    ⟨spellings.name .yAxisColumns, ListText StringText visualization.yAxisColumns⟩,
    ⟨spellings.name .title, StringText visualization.title⟩]

/-- How a chart may be written as an object, with the names spelled by choice. -/
def Visualization.SpelledText (spellings : Spellings) (visualization : Visualization) :
    List Char → Prop :=
  ObjectText visualizationShape.fields (visualization.forms spellings)

/-- The members of the object for an answer, spelled by choice. -/
def Answer.forms (spellings : Spellings) (answer : Answer) : List NamedForm :=
  [⟨spellings.name .sqlQuery, StringText answer.sqlQuery⟩,
    ⟨spellings.name .explanation, StringText answer.explanation⟩,
    ⟨spellings.name .visualization, answer.visualization.SpelledText spellings⟩]

/-- How an answer may be written as an object, with the names spelled by choice. -/
def Answer.SpelledText (spellings : Spellings) (answer : Answer) : List Char → Prop :=
  ObjectText answerShape.fields (answer.forms spellings)

/-- The object for a chart whose names are spelled by choice. -/
def Visualization.spelledValue (spellings : Spellings) (visualization : Visualization) : Value :=
  .object [(String.ofList (spellings.name .chartType), .text visualization.chart.name),
    (String.ofList (spellings.name .xAxisColumn), .text visualization.xAxisColumn),
    (String.ofList (spellings.name .yAxisColumns), .ofTexts visualization.yAxisColumns),
    (String.ofList (spellings.name .title), .text visualization.title)]

/-- The object for an answer whose names are spelled by choice. -/
def Answer.spelledValue (spellings : Spellings) (answer : Answer) : Value :=
  .object [(String.ofList (spellings.name .sqlQuery), .text answer.sqlQuery),
    (String.ofList (spellings.name .explanation), .text answer.explanation),
    (String.ofList (spellings.name .visualization), answer.visualization.spelledValue spellings)]

theorem Visualization.spelledText_render (spellings : Spellings) (visualization : Visualization) :
    visualization.SpelledText spellings (visualization.spelledValue spellings).render := by
  refine objectText_render ?_ (List.forall_mem_nil _) (by rw [List.append_nil])
  exact .cons ⟨String.toList_ofList, stringText_render _⟩ <|
    .cons ⟨String.toList_ofList, stringText_render _⟩ <|
    .cons ⟨String.toList_ofList, listText_render fun column _ => stringText_render column⟩ <|
    .cons ⟨String.toList_ofList, stringText_render _⟩ .nil

/-- Every answer can be written under every choice of spellings. -/
theorem Answer.spelledText_render (spellings : Spellings) (answer : Answer) :
    answer.SpelledText spellings (answer.spelledValue spellings).render := by
  refine objectText_render ?_ (List.forall_mem_nil _) (by rw [List.append_nil])
  exact .cons ⟨String.toList_ofList, stringText_render _⟩ <|
    .cons ⟨String.toList_ofList, stringText_render _⟩ <|
    .cons ⟨String.toList_ofList, answer.visualization.spelledText_render spellings⟩ .nil

/-! ## Reading -/

theorem chartDecoder_takes {need : Nat} {chart : Chart} {text : List Char}
    (htext : StringText chart.name text) : chartDecoder.Takes need text chart := by
  have hname : stringDecoder.Takes need text chart.name := stringDecoder_takes htext
  have htakes := (hname.option htext.not_null).map
    fun name? => (name?.map Chart.ofName).getD default
  rw [Option.map_some, Option.getD_some, Chart.ofName_name] at htakes
  exact htakes

theorem columnsDecoder_takes {columns : List String} {text : List Char}
    (htext : ListText StringText columns text) : columnsDecoder.Takes 2 text columns := by
  have htakes := (anyDecoder_takes htext).map columnsOfValue
  rw [Value.ofTexts, columnsOfValue, allTexts?_texts, Option.getD_some] at htakes
  exact htakes

/-- The chart without its columns, if they are not spelled as they are known. -/
def Visualization.readUnder (spellings : Spellings) (visualization : Visualization) :
    Visualization :=
  { visualization with
    yAxisColumns :=
      if spellings .yAxisColumns = .camel then visualization.yAxisColumns else [] }

/-- The answer without the columns of its chart, if they are not spelled as they are known. -/
def Answer.readUnder (spellings : Spellings) (answer : Answer) : Answer :=
  { answer with visualization := answer.visualization.readUnder spellings }

theorem Answer.readUnder_eq_iff (spellings : Spellings) (answer : Answer) :
    answer.readUnder spellings = answer ↔
      spellings .yAxisColumns = .camel ∨ answer.visualization.yAxisColumns = [] := by
  obtain ⟨sqlQuery, explanation, chart, xAxisColumn, yAxisColumns, title⟩ := answer
  by_cases hcamel : spellings .yAxisColumns = .camel
  · simp [readUnder, Visualization.readUnder, hcamel]
  · simp [readUnder, Visualization.readUnder, hcamel, eq_comm]

variable {spellings : Spellings} {text : List Char}

theorem Visualization.spelled_takes {visualization : Visualization}
    (htext : visualization.SpelledText spellings text) :
    (visualizationShape.decoder default).Takes 3 text (visualization.readUnder spellings) := by
  refine ObjectText.takes (visualization.readUnder spellings).AgreesAt htext (show 1 ≤ 2 by decide)
    rfl ?_ fun record => (visualization.readUnder spellings).eq_of_agreesAt
  rintro (_ | _ | _ | _ | _) form ⟨⟩ member hname hwrites
  · have hindex := (fieldIndex?_visualization (spellings .chartType)).1
    refine Member.fits_of_takes (hname ▸ hindex) rfl
      (Field.optional_takes (chartDecoder_takes hwrites) _ _) ?_
    rintro record (_ | _ | _ | _ | _) (⟨⟨⟩⟩ | hagrees) <;> first | rfl | exact hagrees
  · have hindex := (fieldIndex?_visualization (spellings .xAxisColumn)).2.1
    refine Member.fits_of_takes (hname ▸ hindex) rfl
      (Field.optional_takes (stringDecoder_takes hwrites) _ _) ?_
    rintro record (_ | _ | _ | _ | _) (⟨⟨⟩⟩ | hagrees) <;> first | rfl | exact hagrees
  · have hindex := fieldIndex?_columns (spellings .yAxisColumns)
    by_cases hcamel : spellings .yAxisColumns = .camel
    · rw [if_pos hcamel] at hindex
      refine Member.fits_of_takes (hname ▸ hindex) rfl
        (Field.optional_takes (columnsDecoder_takes hwrites) _ _) ?_
      rintro record (_ | _ | _ | _ | _) (⟨⟨⟩⟩ | hagrees) <;>
        first | exact (if_pos hcamel).symm | exact hagrees
    · -- Nobody reads the columns, and the blank record has none.
      rw [if_neg hcamel] at hindex
      exact .unknown (hname ▸ hindex) rfl rfl (if_neg hcamel).symm
        (ListText.isValue (fun _ _ => StringText.isValue) hwrites)
  · have hindex := (fieldIndex?_visualization (spellings .title)).2.2
    refine Member.fits_of_takes (hname ▸ hindex) rfl
      (Field.optional_takes (stringDecoder_takes hwrites) _ _) ?_
    rintro record (_ | _ | _ | _ | _) (⟨⟨⟩⟩ | hagrees) <;> first | rfl | exact hagrees

theorem Answer.spelled_takes {answer : Answer} (htext : answer.SpelledText spellings text) :
    answerDecoder.Takes 4 text (answer.readUnder spellings) := by
  refine ObjectText.takes (answer.readUnder spellings).AgreesAt htext (show 1 ≤ 3 by decide)
    rfl ?_ fun record => (answer.readUnder spellings).eq_of_agreesAt
  rintro (_ | _ | _ | _) form ⟨⟩ member hname hwrites
  · have hindex := (fieldIndex?_answer (spellings .sqlQuery)).1
    refine Member.fits_of_takes (hname ▸ hindex) rfl
      (Field.required_takes (stringDecoder_takes hwrites) _ _) ?_
    rintro record (_ | _ | _ | _) (⟨⟨⟩⟩ | hagrees) <;> first | rfl | exact hagrees
  · have hindex := (fieldIndex?_answer (spellings .explanation)).2.1
    refine Member.fits_of_takes (hname ▸ hindex) rfl
      (Field.optional_takes ((stringDecoder_takes hwrites).default hwrites.not_null) _ _) ?_
    rintro record (_ | _ | _ | _) (⟨⟨⟩⟩ | hagrees) <;> first | rfl | exact hagrees
  · have hindex := (fieldIndex?_answer (spellings .visualization)).2.2
    refine Member.fits_of_takes (hname ▸ hindex) rfl
      (Field.optional_takes ((Visualization.spelled_takes hwrites).default
        (ObjectText.not_null hwrites)) _ _) ?_
    rintro record (_ | _ | _ | _) (⟨⟨⟩⟩ | hagrees) <;> first | rfl | exact hagrees

/-- The names that the query of an answer goes by. -/
def IsQueryName (name : List Char) : Prop :=
  (∃ spelling : Spelling, name = spelling.join Key.sqlQuery.words) ∨ name = "sql".toList

/-- An object that gives a query twice, under one name or two and with any values, among any other
members. -/
inductive GivesQueryTwice : List Char → Prop
  | mk {members : List Member} {first second : Member} {rest : List Char}
      (hvalues : ∀ member ∈ members, IsValue member.value)
      (hpair : [first, second].Sublist members)
      (hfirst : IsQueryName first.name) (hsecond : IsQueryName second.name)
      (hrest : Joined '\x7d' true (members.map Member.text) rest) :
      GivesQueryTwice ('\x7b' :: rest)

theorem IsQueryName.fieldIndex?_eq {name : List Char} (hname : IsQueryName name) :
    fieldIndex? answerShape.fields name = some 0 := by
  obtain ⟨spelling, rfl⟩ | rfl := hname
  · exact (fieldIndex?_answer spelling).1
  · decide +kernel

theorem chartDecoder_takesOne : chartDecoder.TakesOne :=
  stringDecoder_takesOne.option.map fun name? => (name?.map Chart.ofName).getD default

theorem columnsDecoder_takesOne : columnsDecoder.TakesOne :=
  anyDecoder_takesOne.map columnsOfValue

theorem visualizationDecoder_takesOne : (visualizationShape.decoder default).TakesOne := by
  refine RecordShape.decoder_takesOne (fun field hfield => ?_) default
  simp only [visualizationShape, List.mem_cons, List.not_mem_nil, or_false] at hfield
  obtain rfl | rfl | rfl | rfl := hfield
  · exact Field.optional_takesOne chartDecoder_takesOne _ _ _
  · exact Field.optional_takesOne stringDecoder_takesOne _ _ _
  · exact Field.optional_takesOne columnsDecoder_takesOne _ _ _
  · exact Field.optional_takesOne stringDecoder_takesOne _ _ _

theorem answerDecoder_refuses (htext : GivesQueryTwice text) {before : List Char}
    (hbefore : IsGap before) (after : List Char) :
    ∃ fault, answerDecoder.document (before ++ (text ++ after)) = .error fault := by
  obtain ⟨hvalues, hpair, hfirst, hsecond, hrest⟩ := htext
  refine RecordShape.document_refuses (fun field hfield => ?_) hvalues hrest hpair
    hfirst.fieldIndex?_eq hsecond.fieldIndex?_eq hbefore after default
  simp only [answerShape, List.mem_cons, List.not_mem_nil, or_false] at hfield
  obtain rfl | rfl | rfl := hfield
  · exact Field.required_takesOne stringDecoder_takesOne _ _ _
  · exact Field.optional_takesOne stringDecoder_takesOne.default _ _ _
  · exact Field.optional_takesOne visualizationDecoder_takesOne.default _ _ _

/-- However the names are spelled, an answer is read, but for the columns of its chart: it comes back
whole exactly if their name is in camel case or there are none. An object that gives a query twice is
not read. -/
theorem spelled_answers_read (answer : Answer) (spellings : Spellings)
    {text twice before after : List Char} (htext : answer.SpelledText spellings text)
    (htwice : GivesQueryTwice twice) (hbefore : IsGap before) (hafter : IsGap after) :
    answerDecoder.document (before ++ (text ++ after)) = .ok (answer.readUnder spellings) ∧
      (answer.readUnder spellings = answer ↔
        spellings .yAxisColumns = .camel ∨ answer.visualization.yAxisColumns = []) ∧
      ∃ fault, answerDecoder.document (before ++ (twice ++ after)) = .error fault :=
  ⟨(Answer.spelled_takes htext).document (by decide) hbefore hafter,
    answer.readUnder_eq_iff spellings, answerDecoder_refuses htwice hbefore after⟩

/-- An answer with a column on each axis. -/
def sampleAnswer : Answer := ⟨"SELECT a, b FROM t", "one", ⟨.bar, "a", ["b"], "t"⟩⟩

/-- Pascal case, but for the columns of a chart. -/
def pascalSpellings : Spellings := fun key => if key = .yAxisColumns then .camel else .pascal

theorem spelled_answers_read_pascal :
    answerDecoder.document (sampleAnswer.spelledValue pascalSpellings).render = .ok sampleAnswer ∧
      ∃ fault, answerDecoder.document
        (Value.object [("sqlQuery", .text "SELECT 1"), ("sql_query", .null)]).render =
          .error fault := by
  obtain ⟨rest, hrender, hrest⟩ :=
    exists_render_object [("sqlQuery", .text "SELECT 1"), ("sql_query", .null)]
  have hvalues : ∀ member ∈ [Member.compact ("sqlQuery", .text "SELECT 1"),
      Member.compact ("sql_query", .null)], IsValue member.value := by
    simp only [List.forall_mem_cons]
    exact ⟨(stringText_render _).isValue, .null, List.forall_mem_nil _⟩
  have htwice := GivesQueryTwice.mk hvalues (List.Sublist.refl _) (.inl ⟨.camel, by decide⟩)
    (.inl ⟨.snake, by decide⟩) hrest
  have htext := sampleAnswer.spelledText_render pascalSpellings
  obtain ⟨hread, hwhole, hrefused⟩ :=
    spelled_answers_read sampleAnswer pascalSpellings htext htwice .nil .nil
  rw [hwhole.mpr (.inl rfl), List.nil_append, List.append_nil] at hread
  rw [List.nil_append, List.append_nil, ← hrender] at hrefused
  exact ⟨hread, hrefused⟩

/-- Under the snake case of every name, the columns of the chart are lost. -/
theorem snake_case_columns_lost :
    sampleAnswer.SpelledText (fun _ => .snake)
        (sampleAnswer.spelledValue fun _ => .snake).render ∧
      answerDecoder.document (sampleAnswer.spelledValue fun _ => .snake).render =
        .ok ⟨"SELECT a, b FROM t", "one", ⟨.bar, "a", [], "t"⟩⟩ := by
  have htext := sampleAnswer.spelledText_render fun _ => .snake
  have hread := (Answer.spelled_takes htext).document (by decide) .nil .nil
  rw [List.nil_append, List.append_nil] at hread
  exact ⟨htext, hread⟩

end QueryWarden.Generation
