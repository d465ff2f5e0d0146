import QueryWarden.Proofs.Generation.Reports
import QueryWarden.Service.Queries

/-!
# Proposals

A proposal that is passed on is never refused by the validator, since the validator has seen the
text that is shown. Of a query that is withheld nothing is told besides the reason.
-/

namespace QueryWarden.Service

open QueryWarden.Generation QueryWarden.Sql

/-! ## Passing a proposal on -/

theorem Failure.ofDatabase_ne_validationRejected (failure : Database.Failure) (reason : String) :
    Failure.ofDatabase failure ≠ .validationRejected reason := by
  cases failure <;> simp [Failure.ofDatabase]

/-- A query that the validator accepts is run, or fails for a reason of the database or the
registry. -/
theorem State.execute_ne_validationRejected {setup : Setup} {sql : String}
    (haccepted : ∀ dialect, (setup.validator.validate sql dialect).isValid = true) (state : State)
    (occasion : Occasion) (id : Int) (reason : String) :
    (state.execute setup occasion sql id).1 ≠ .error (.validationRejected reason) := by
  unfold State.execute
  cases hconnection : state.connection setup id with
  | error failure =>
      simp only [State.connection, Except.mapError] at hconnection
      split at hconnection
      next found _ =>
        obtain rfl := Except.error.inj hconnection
        simpa using Failure.ofDatabase_ne_validationRejected found reason
      next => simp at hconnection
  | ok connection =>
      simp only [haccepted, if_true]
      split
      next failure _ => simpa using Failure.ofDatabase_ne_validationRejected failure reason
      next => simp

/-- What a report tells of a reply. A success shows a query that the validator accepts and that is
not refused when it is passed on; anything else shows a text that is marked as a failure and that
the validator refuses. -/
structure TellsVerdict (validator : Validator) (report : Report) : Prop where
  successful_iff : ∀ dialect, report.isSuccessful = true ↔
    (validator.validate report.answer.sqlQuery dialect).isValid = true
  passed_on : report.isSuccessful = true → ∀ (state : State) (setup : Setup) (occasion : Occasion)
    (id : Int) (reason : String), setup.validator = validator →
      (state.execute setup occasion report.answer.sqlQuery id).1 ≠
        .error (.validationRejected reason)
  marked : report.isSuccessful = false → errorSentinel.toList <+: report.answer.sqlQuery.toList ∧
    ∀ dialect, (validator.validate report.answer.sqlQuery dialect).isValid = false

theorem tellsVerdict_conclude (isStrict : Bool) (dialect : Dialect) (reply : String) :
    TellsVerdict (.ofStrictness isStrict) (conclude (.ofStrictness isStrict) dialect reply) where
  successful_iff := isSuccessful_conclude_iff isStrict dialect reply
  passed_on := by
    intro hsuccess state setup occasion id reason hvalidator
    refine State.execute_ne_validationRejected (fun other => ?_) state occasion id reason
    rw [hvalidator]
    exact (isSuccessful_conclude_iff isStrict dialect reply other).mp hsuccess
  marked := by
    intro hfailed
    refine ⟨(Answer.isFailure_iff _).mp (isFailure_conclude isStrict dialect reply hfailed), ?_⟩
    intro other
    rw [Bool.eq_false_iff, Ne, ← isSuccessful_conclude_iff isStrict dialect reply other, hfailed]
    exact Bool.false_ne_true

/-- A reply gives a report that is a success exactly when the validator accepts what it shows, and
two replies whose queries are refused for one reason, with equal charts, give equal reports. -/
theorem generate_tellsVerdict (isStrict : Bool) (model : Model) (request : Request)
    (reply : String) (hreply : model request.prompt = .ok reply) :
    let validator := Validator.ofStrictness isStrict
    ∃ report, Generation.generate model validator request = .ok report ∧
      TellsVerdict validator report ∧
      ∀ (otherModel : Model) (otherRequest : Request) (otherReply reason : String),
        otherModel otherRequest.prompt = .ok otherReply →
        (recoverAnswer reply).isFailure = false → (recoverAnswer otherReply).isFailure = false →
        (recoverAnswer reply).visualization = (recoverAnswer otherReply).visualization →
        validator.validate (adapt (recoverAnswer reply).sqlQuery request.dialect)
          request.dialect = .rejected reason →
        validator.validate (adapt (recoverAnswer otherReply).sqlQuery otherRequest.dialect)
          otherRequest.dialect = .rejected reason →
        Generation.generate otherModel validator otherRequest = .ok report := by
  intro validator
  refine ⟨conclude validator request.dialect reply, ?_,
    tellsVerdict_conclude isStrict request.dialect reply, ?_⟩
  · rw [Generation.generate, hreply]
    rfl
  · intro otherModel otherRequest otherReply reason hother hanswer hanswer' hchart hrefused
      hrefused'
    have hreport := conclude_of_refused request.dialect reply hanswer
      (congrArg Verdict.reason hrefused)
    have hreport' := conclude_of_refused otherRequest.dialect otherReply hanswer'
      (congrArg Verdict.reason hrefused')
    rw [Generation.generate, hother, hreport, hchart, ← hreport']
    rfl

/-- Two blocked queries of different wording are told of in the same words. -/
theorem blocked_replies_agree :
    let request : Request := ⟨"tidy up", ⟨[]⟩, .sqlServer⟩
    let first := "\x7b\"sqlQuery\": \"SELECT 1; DROP TABLE a\", \"explanation\": \"one\"\x7d"
    let second := "\x7b\"sqlQuery\": \"drop table b\", \"explanation\": \"two\"\x7d"
    ∃ report, Generation.generate (fun _ => .ok first) .strict request = .ok report ∧
      TellsVerdict .strict report ∧
      Generation.generate (fun _ => .ok second) .strict request = .ok report := by
  intro request first second
  obtain ⟨report, hreport, htells, hsame⟩ :=
    generate_tellsVerdict true (fun _ => .ok first) request first rfl
  refine ⟨report, hreport, htells, ?_⟩
  exact hsame (fun _ => .ok second) request second "query contains forbidden keyword: DROP" rfl
    (by decide +kernel) (by decide +kernel) (by decide +kernel) (by decide +kernel)
    (by decide +kernel)

end QueryWarden.Service
