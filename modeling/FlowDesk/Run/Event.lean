/-
# Events of a run

A run leaves a trace: it says when a step starts, what it did, where it leads
and why it failed.
-/

import FlowDesk.Guard

namespace FlowDesk

/-- Something that happened in a run. -/
inductive Event where
  | stepStarted (step : String) (type : Value)
  | operationCompleted (step operation : String) (success : Bool) (bindings : List String)
      (error : Value)
  | branchEvaluated (step field : String) (operator : Operator) (result : Bool)
  | responseRendered (step : String) (length : Nat)
  | transition (source target : String)
  | stepFailed (step error : String)

/-- A note in a log: a type, the step it is about, and data. -/
structure Note where
  type : String
  step : String
  data : Value

/-- An event as a note. -/
def Event.note : Event → Note
  | .stepStarted step type => ⟨"step_started", step, .object [("type", type)]⟩
  | .operationCompleted step operation success bindings error =>
    ⟨"operation_completed", step, .object
      [ ("operation", .text operation),
        ("success", .bool success),
        ("variables", .ofTexts bindings),
        ("error", error) ]⟩
  | .branchEvaluated step field operator result =>
    ⟨"branch_evaluated", step, .object
      [("field", .text field), ("operator", .text operator.name), ("result", .bool result)]⟩
  | .responseRendered step length =>
    ⟨"response_rendered", step, .object [("length", .int length)]⟩
  | .transition source target =>
    ⟨"transition", source, .object [("from", .text source), ("to", .text target)]⟩
  | .stepFailed step error => ⟨"step_failed", step, .object [("error", .text error)]⟩

end FlowDesk
