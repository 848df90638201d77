/-
# What a failure leaves behind

A step works on the context in place, and it can fail before, between and after its
writes: something is no step, arguments cannot be filled in, a call ends in an accident or
returns no mapping, or an operation does not succeed and its step names no way on.  This
module says what is left of the writes.  A visit that fails leaves the bindings and the
response as it found them (`Visit.frozen_of_fail`); the result stays as well, unless the
operation returned a mapping, which is then the result.

A run that fails does so in its last visit, or before it enters another node
(`Graph.course_failed`).  The main result is `failure_freezes`.
-/

import FlowDesk.Proofs.Run.Trace

namespace FlowDesk

/-! ## One visit -/

/-- The mapping on which a visit fails: its operation returned it without success,
and its step names no successor for that. -/
def Visit.rejected? (visit : Visit) : Option Fields :=
  match visit.node with
  | .step step =>
    match step.action with
    | .operation _ _ _ _ onFailure =>
      if (onFailure.filter (· ≠ "")).isSome then none
      else visit.returned?.filter fun result => !succeeded result
    | _ => none
  | .stranger _ => none

/-- A context is frozen since a moment: everything in it is as it was then, but for
the result, if a mapping was rejected since. -/
structure Context.FrozenSince (context moment : Context) (rejected : Option Fields) : Prop where
  origin : context.origin = moment.origin
  bindings : context.bindings = moment.bindings
  response : context.response = moment.response
  result : context.result = rejected.or moment.result

/-- Only a mapping can be rejected. -/
theorem Visit.rejected?_of_returned? {visit : Visit} (hnone : visit.returned? = none) :
    visit.rejected? = none := by
  unfold rejected?
  split
  · split
    · simp [hnone]
    · rfl
  · rfl

/-- An operation fails on a mapping only if this tells of no success and the step
names no successor for that. -/
theorem Step.rejects_of_fail {step : Step} {operation : String} {names : List String}
    {onSuccess onFailure : Option String} {context : Context} {result : Fields} {cause : Failure}
    (hfail : (step.settleResult operation names onSuccess onFailure context result).verdict =
      .fail cause) : succeeded result = false ∧ onFailure.filter (· ≠ "") = none := by
  simp only [settleResult] at hfail
  split at hfail
  · exact absurd hfail (Verdict.toFirst_ne_fail _ _)
  · rename_i hsucceeded
    split at hfail
    · cases hfail
    · rename_i hnoway
      exact ⟨Bool.eq_false_iff.2 hsucceeded, hnoway⟩

/-- A context that was left alone is frozen. -/
theorem Context.FrozenSince.refl (context : Context) : context.FrozenSince context none :=
  ⟨rfl, rfl, rfl, rfl⟩

/-- An operation step that fails on an answer leaves the context as it found it, but for a
mapping that it rejected. -/
theorem Visit.settle_frozen_of_fail {visit : Visit} {own : Step} {operation : String}
    {args : Fields} {names : List String} {onSuccess onFailure : Option String} {call : Call}
    {given : Answer} {cause : Failure} (hnode : visit.node = .step own)
    (haction : own.action = .operation operation args names onSuccess onFailure)
    (hcall : Step.call visit.context operation args = .ok call)
    (hanswer : visit.answer = some given)
    (hfail : (own.settle operation names onSuccess onFailure visit.context given).verdict =
      .fail cause) :
    (own.settle operation names onSuccess onFailure visit.context given).context.FrozenSince
      visit.context visit.rejected? := by
  have hmade : visit.call? = some call := by
    simp only [call?, hnode, Node.call?, haction, hcall, Except.toOption]
  cases given with
  | fault fault =>
    rw [rejected?_of_returned? (by simp only [returned?, hmade, hanswer])]
    exact .refl visit.context
  | value v =>
    cases v with
    | object result =>
      obtain ⟨hfailed, hnoway⟩ := Step.rejects_of_fail hfail
      have hreturned : visit.returned? = some result := by
        simp only [returned?, hmade, hanswer]
      have hrejected : visit.rejected? = some result := by
        simp only [rejected?, hnode, haction, hnoway, Option.isSome_none, hreturned,
          Option.filter_some, hfailed]
        rfl
      rw [hrejected]
      refine ⟨rfl, ?_, rfl, rfl⟩
      simp [Step.settle, Step.settleResult, hfailed, Table.putAll]
    | _ =>
      rw [rejected?_of_returned? (by simp only [returned?, hmade, hanswer])]
      exact .refl visit.context

/-- A visit that fails leaves the context as it found it, but for a mapping that it
rejected. -/
theorem Visit.frozen_of_fail {visit : Visit} {effect : Effect} {cause : Failure}
    (heffect : visit.effect? = some effect) (hfail : effect.verdict = .fail cause) :
    visit.after.FrozenSince visit.context visit.rejected? := by
  simp only [after, heffect]
  rw [effect?] at heffect
  cases hnode : visit.node with
  | stranger other =>
    rw [hnode] at heffect
    cases heffect
    rw [rejected?_of_returned? (by simp only [returned?, call?, hnode, Node.call?])]
    exact .refl visit.context
  | step own =>
    rw [hnode] at heffect
    cases Step.does_of_effect? heffect with
    | meets hobstacle =>
      rw [← hnode] at hobstacle
      rw [rejected?_of_returned? (tells_nothing_of_obstacle hobstacle).1]
      exact .refl visit.context
    | settles haction hcall hanswer => exact settle_frozen_of_fail hnode haction hcall hanswer hfail
    | decides => exact absurd hfail (Verdict.toFirst_ne_fail _ _)
    | responds => exact absurd hfail (Verdict.toFirst_ne_fail _ _)

/-! ## The run -/

variable {σ : Type}

/-- A run that fails stands before a node that it cannot enter, or it fails in its last
visit. -/
theorem Graph.course_failed (graph : Graph) (handler : Handler σ) (budget left : Nat)
    (key : String) (context : Context) (state : σ) {here : String} {cause : Failure}
    (hending : (graph.course handler budget left key context state).ending = .failed here cause) :
    (cause = .stepNotFound here ∨ cause = .budgetExhausted budget here) ∨
      ∃ before visit effect,
        (graph.course handler budget left key context state).visits = before ++ [visit] ∧
        visit.key = here ∧ visit.effect? = some effect ∧ effect.verdict = .fail cause := by
  fun_induction Graph.course graph handler budget left key context state with
  | case1 left key context state hnode =>
    cases hending
    exact .inl (.inl rfl)
  | case2 key context state node hnode =>
    cases hending
    exact .inl (.inr rfl)
  | case3 key context state node hnode left consulted visit heffect => cases hending
  | case4 key context state node hnode left consulted visit effect heffect target hverdict ih =>
    refine (ih hending).imp_right ?_
    rintro ⟨before, last, final, hvisits, hlast⟩
    exact ⟨visit :: before, last, final, congrArg (visit :: ·) hvisits, hlast⟩
  | case5 key context state node hnode left consulted visit effect heffect hverdict =>
    cases hending
  | case6 key context state node hnode left consulted visit effect heffect cause hverdict =>
    cases hending
    exact .inr ⟨[], visit, effect, rfl, rfl, heffect, hverdict⟩
  | case7 key context state node hnode left consulted visit effect heffect obstacle hverdict =>
    cases hending

/-- The response of a report is the one of its context, also where both are given out as
data. -/
theorem Report.response_value (report : Report) (entries : List Entry) :
    (report.value entries).follow? ["response"] =
      (report.value entries).follow? ["context", "response"] := by
  simp only [value, Value.follow?, Value.step?_finite_object, Context.value]
  rfl

/-- **A failing step leaves the context frozen.**  The report of a run gives an error and
a step exactly when the run failed.  If it failed for want of a step or of budget, its
context is the one in which the walk stopped.  Otherwise the step that it names is the
last one visited, and the context is as it was when that visit began, but for the mapping
that the visit rejected, if it rejected one: this is then the result.  In every case the
report gives out the response of its context, whatever log goes with it. -/
theorem failure_freezes (graph : Graph) (handler : Handler σ) (budget : Nat) (start : String)
    (context : Context) (state : σ) :
    let visits := (graph.courseOf handler budget start context state).visits
    ∀ report, ((graph.run budget start context).play handler state).result = some (.ok report) →
      (∀ entries, (report.value entries).follow? ["response"] =
        (report.value entries).follow? ["context", "response"]) ∧
      (report.success = true → report.error = none ∧ report.failedStep = none) ∧
      (report.success = false → ∃ here cause, report.failure = some (here, cause) ∧
        report.error = some cause.message ∧ report.failedStep = some here ∧
        ((cause = .stepNotFound here ∨ cause = .budgetExhausted budget here) ∧
            report.context = contextAfter visits context ∨
          ∃ before visit, visits = before ++ [visit] ∧ visit.key = here ∧
            visit.Agrees graph handler (stateAfter handler before state) ∧
            visit.context = contextAfter before context ∧
            report.context.FrozenSince visit.context visit.rejected?)) := by
  intro visits report hresult
  have hreport := Graph.report?_of_play hresult
  have hcontext : report.context = contextAfter visits context :=
    (Course.report?_eq_some hreport).1
  refine ⟨report.response_value, fun hsuccess => ?_, fun hfailed => ?_⟩
  · have hnone : report.failure = none := Option.isNone_iff_eq_none.1 hsuccess
    simp [Report.error, Report.failedStep, hnone]
  · obtain ⟨⟨here, cause⟩, hfailure⟩ : ∃ failure, report.failure = some failure := by
      rw [← Option.isSome_iff_exists, ← Option.isNone_eq_false_iff]
      exact hfailed
    refine ⟨here, cause, hfailure, by simp [Report.error, hfailure],
      by simp [Report.failedStep, hfailure], ?_⟩
    rcases graph.course_failed handler budget budget start context state
        (Course.ending_of_failure hreport hfailure) with hstopped | hvisit
    · exact .inl ⟨hstopped, hcontext⟩
    · obtain ⟨before, visit, effect, hvisits, hkey, heffect, hfail⟩ := hvisit
      have hfollows : Follows graph handler start context state visits :=
        graph.course_follows handler budget budget start context state
      have hlast : visits = before ++ [visit] := hvisits
      rw [hlast] at hfollows hcontext
      obtain ⟨-, hagrees, hmoment⟩ := hfollows.split
      rw [contextAfter_append, contextAfter_cons, contextAfter_nil] at hcontext
      refine .inr ⟨before, visit, hlast, hkey, hagrees, hmoment, ?_⟩
      rw [hcontext]
      exact Visit.frozen_of_fail heffect hfail

/-- The second operation binds nothing and ends the run, because its success is a number
and its step names no way on; what the first one bound stays, and the mapping of the second
one is the result. -/
theorem failure_freezes_rejecting :
    let first : Step := ⟨"first", "first", some "second", .operation "count" [] ["n"] none none⟩
    let second : Step := ⟨"second", "second", none, .operation "count" [] ["n"] none (some "")⟩
    let graph : Graph := ⟨"f", [("first", .step first), ("second", .step second)]⟩
    let counted (n : Nat) : Fields :=
      [("success", if n = 0 then .bool true else .int n), ("n", .int n)]
    let handler : Handler Nat := fun _ n => (.now (.value (.object (counted n))), n + 1)
    let start : Context := ⟨"hello", .number 1, "", "f", "f", none, none, []⟩
    ∃ report moment, ((graph.run 5 "first" start).play handler 0).result = some (.ok report) ∧
      report.failedStep = some "second" ∧ moment.bindings = [("n", .int 0)] ∧
      report.context.FrozenSince moment (some (counted 1)) := by
  intro first second graph counted handler start
  obtain ⟨-, -, hfailed⟩ := failure_freezes graph handler 5 "first" start 0 _ rfl
  obtain ⟨here, cause, hfailure, -, hstep, hends⟩ := hfailed rfl
  cases hfailure
  rcases hends with ⟨hstopped | hstopped, -⟩ | ⟨before, visit, hvisits, -, -, -, hfrozen⟩
  · cases hstopped
  · cases hstopped
  · have hvisit : some visit =
        (graph.courseOf handler 5 "first" start 0).visits.getLast? := by
      rw [hvisits, List.getLast?_append, List.getLast?_singleton]
      rfl
    cases hvisit
    exact ⟨_, _, rfl, rfl, rfl, hfrozen⟩

end FlowDesk
