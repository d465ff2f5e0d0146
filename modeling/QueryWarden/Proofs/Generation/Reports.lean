import QueryWarden.Generation.Proposal
import QueryWarden.Proofs.Outcome
import QueryWarden.Proofs.Sql.Rules

/-!
# Reports and the validator

A report on a question is a success exactly when the validator accepts the query that it shows. The
validator sees the query after its adaptation, which is the text that is shown, and a failure is
marked by an opening that no accepted query has.
-/

namespace QueryWarden.Sql

open QueryWarden.Text

namespace Validator

theorem prefixRequirement_mem_rules (isStrict : Bool) :
    Rule.prefixRequirement ∈ (ofStrictness isStrict).rules := by
  cases isStrict <;> decide

/-- A text that is marked as a failure is accepted by no validator of the configuration. -/
theorem isValid_validateText_of_sentinel (isStrict : Bool) {sql : List Char}
    (hsentinel : Generation.errorSentinel.toList <+: sql) :
    ((ofStrictness isStrict).validateText sql).isValid = false := by
  obtain ⟨rest, rfl⟩ := hsentinel
  rw [Bool.eq_false_iff, Ne, isValid_validateText_iff]
  intro hall
  have hopens := hall _ (prefixRequirement_mem_rules isStrict)
  rw [Rule.IsBroken, not_not] at hopens
  have hhead : trimStart (Generation.errorSentinel.toList ++ rest) =
      'E' :: ("RROR".toList ++ rest) := by
    simp [trimStart, Generation.errorSentinel, show isBlank 'E' = false by decide]
  have hfold := hopens.simpleFold_head hhead
  revert hfold
  decide

end Validator

end QueryWarden.Sql

namespace QueryWarden.Generation

open QueryWarden.Sql

/-! ## Reports -/

/-- A chart is named by a name that stands for it. -/
theorem Chart.ofName_name (chart : Chart) : ofName chart.name = chart := by
  cases chart <;> decide +kernel

theorem Answer.isFailure_iff (answer : Answer) :
    answer.isFailure = true ↔ errorSentinel.toList <+: answer.sqlQuery.toList :=
  List.isPrefixOf_iff_prefix

theorem Answer.isFailure_withheld (answer : Answer) (reason : String) :
    (answer.withheld reason).isFailure = true := by
  rw [isFailure_iff]
  simp [withheld]

/-- The answer with its query in the dialect of the target. -/
def Answer.adapted (answer : Answer) (dialect : Dialect) : Answer :=
  { answer with sqlQuery := adapt answer.sqlQuery dialect }

@[simp] theorem Answer.adapted_sqlQuery (answer : Answer) (dialect : Dialect) :
    (answer.adapted dialect).sqlQuery = adapt answer.sqlQuery dialect := rfl

@[simp] theorem Answer.adapted_visualization (answer : Answer) (dialect : Dialect) :
    (answer.adapted dialect).visualization = answer.visualization := rfl

/-- The three ways a report comes about: the reply holds no query, or its adapted query is
accepted, or the adapted query is refused and withheld. -/
theorem conclude_cases (validator : Validator) (dialect : Dialect) (reply : String) :
    ((recoverAnswer reply).isFailure = true ∧
        conclude validator dialect reply = ⟨recoverAnswer reply, none⟩) ∨
      ((recoverAnswer reply).isFailure = false ∧
        (validator.validate (adapt (recoverAnswer reply).sqlQuery dialect) dialect).isValid =
          true ∧
        conclude validator dialect reply = ⟨(recoverAnswer reply).adapted dialect, none⟩) ∨
      ∃ reason, (recoverAnswer reply).isFailure = false ∧
        (validator.validate (adapt (recoverAnswer reply).sqlQuery dialect) dialect).reason =
          some reason ∧
        conclude validator dialect reply =
          ⟨((recoverAnswer reply).adapted dialect).withheld reason, some reason⟩ := by
  cases hfailure : (recoverAnswer reply).isFailure with
  | true => exact .inl ⟨rfl, by simp [conclude, hfailure]⟩
  | false =>
      right
      cases hvalid : (validator.validate (adapt (recoverAnswer reply).sqlQuery dialect)
          dialect).isValid with
      | true => exact .inl ⟨rfl, rfl, by simp [conclude, hfailure, hvalid, Answer.adapted]⟩
      | false =>
          have hrefused := hvalid
          rw [Validator.validate, Validator.isValid_validateText, Option.isNone_eq_false_iff,
            Option.isSome_iff_exists] at hrefused
          obtain ⟨reason, hreason⟩ := hrefused
          change (validator.validate _ dialect).reason = some reason at hreason
          exact .inr ⟨reason, rfl, hreason,
            by simp [conclude, hfailure, hvalid, hreason, Answer.adapted]⟩

theorem generate_eq_ok_iff {model : Model} {validator : Validator} {request : Request}
    {report : Report} :
    generate model validator request = .ok report ↔
      ∃ reply, model request.prompt = .ok reply ∧
        conclude validator request.dialect reply = report :=
  map_eq_ok_iff

variable (isStrict : Bool) (dialect : Dialect) (reply : String)

/-- A report is a success exactly when the validator accepts the query it shows. -/
theorem isSuccessful_conclude_iff (other : Dialect) :
    (conclude (.ofStrictness isStrict) dialect reply).isSuccessful = true ↔
      ((Validator.ofStrictness isStrict).validate
        (conclude (.ofStrictness isStrict) dialect reply).answer.sqlQuery other).isValid =
          true := by
  have hsentinel := fun answer : Answer => fun hfailure : answer.isFailure = true =>
    Validator.isValid_validateText_of_sentinel isStrict (answer.isFailure_iff.mp hfailure)
  rcases conclude_cases (.ofStrictness isStrict) dialect reply with
    ⟨hfailure, hreport⟩ | ⟨-, hvalid, hreport⟩ | ⟨reason, -, -, hreport⟩
  · rw [hreport]
    simp [Report.isSuccessful, Validator.validate, hfailure, hsentinel _ hfailure]
  · rw [hreport]
    -- A query without the mark may have it once it is adapted, but is then refused.
    have haccepted : ((recoverAnswer reply).adapted dialect).isFailure = false := by
      rw [Bool.eq_false_iff]
      intro hfailure
      have hrefused := hsentinel _ hfailure
      rw [Answer.adapted_sqlQuery] at hrefused
      rw [Validator.validate, hrefused] at hvalid
      exact Bool.false_ne_true hvalid
    rw [Validator.validate] at hvalid ⊢
    simp [Report.isSuccessful, haccepted, hvalid]
  · rw [hreport]
    have hfailure := ((recoverAnswer reply).adapted dialect).isFailure_withheld reason
    simp [Report.isSuccessful, Validator.validate, hsentinel _ hfailure]

/-- A report that is no success shows a text that is marked as a failure. -/
theorem isFailure_conclude
    (hfailed : (conclude (.ofStrictness isStrict) dialect reply).isSuccessful = false) :
    (conclude (.ofStrictness isStrict) dialect reply).answer.isFailure = true := by
  rcases conclude_cases (.ofStrictness isStrict) dialect reply with
    ⟨hfailure, hreport⟩ | ⟨-, hvalid, hreport⟩ | ⟨reason, -, -, hreport⟩
  · simp only [hreport, hfailure]
  · have hsuccess := isSuccessful_conclude_iff isStrict dialect reply dialect
    rw [hfailed] at hsuccess
    simp [hreport, hvalid] at hsuccess
  · simp only [hreport, Answer.isFailure_withheld]

/-- What is told of a withheld query: the reason and the proposed chart. -/
theorem conclude_of_refused {validator : Validator} {reason : String}
    (hanswer : (recoverAnswer reply).isFailure = false)
    (hrefused : (validator.validate (adapt (recoverAnswer reply).sqlQuery dialect) dialect).reason =
      some reason) :
    conclude validator dialect reply =
      ⟨⟨errorSentinel ++ ": Validation failed. " ++ reason, blockedExplanation,
        (recoverAnswer reply).visualization⟩, some reason⟩ := by
  rcases conclude_cases validator dialect reply with
    ⟨hfailure, -⟩ | ⟨-, hvalid, -⟩ | ⟨found, -, hreason, hreport⟩
  · simp [hanswer] at hfailure
  · rw [Validator.validate, Validator.isValid_validateText] at hvalid
    rw [Validator.validate] at hrefused
    simp [hrefused] at hvalid
  · obtain rfl : reason = found := Option.some.inj (hrefused.symm.trans hreason)
    simp only [hreport, Answer.withheld, Answer.adapted_visualization]

end QueryWarden.Generation
