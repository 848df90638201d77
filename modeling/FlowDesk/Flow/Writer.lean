/-
# Writing flows

A flow as plain data, with every field in its fixed order. Arguments and
expected values are of any shape, and a flow is given out only if they are not
nested too deeply.
-/

import FlowDesk.Flow.Basic
import FlowDesk.Value.Depth
import FlowDesk.Value.Finite

namespace FlowDesk

/-- A guard as data. -/
def Guard.value (guard : Guard) : Value :=
  .object
    [ ("field", .text guard.field),
      ("operator", .text guard.operator.name),
      ("value", guard.expected.finite) ]

/-- A trigger as data. -/
def Trigger.value (trigger : Trigger) : Value :=
  .object
    [ ("type", .text trigger.kind.name),
      ("keywords", .ofTexts trigger.keywords) ]

/-- The fields that only one kind of step has. -/
def Action.fields : Action → Fields
  | .operation name args bindings onSuccess onFailure =>
    [ ("operation", .text name),
      ("args", (Value.object args).finite),
      ("variables", .ofTexts bindings),
      ("on_success", .ofText? onSuccess),
      ("on_failure", .ofText? onFailure) ]
  | .branch guard onTrue onFalse =>
    [ ("condition", guard.value),
      ("on_true", .ofText? onTrue),
      ("on_false", .ofText? onFalse) ]
  | .response template => [("response", .text template)]

/-- A step as data. -/
def Step.value (step : Step) : Value :=
  .object
    ([ ("id", .text step.id),
       ("name", .text step.name),
       ("next_step", .ofText? step.next),
       ("type", .text step.action.tag) ] ++ step.action.fields)

/-- A flow as data. -/
def Flow.value (flow : Flow) : Value :=
  .object
    [ ("id", .text flow.id),
      ("name", .text flow.name),
      ("description", .text flow.description),
      ("trigger", flow.trigger.value),
      ("initial_step", .text flow.initialStep),
      ("steps", .object (flow.steps.map fun entry => (entry.1, entry.2.value))) ]

/-- The parts of an action that may be of any shape. -/
def Action.freeParts : Action → List Value
  | .operation _ args .. => args.values
  | .branch guard .. => [guard.expected]
  | .response _ => []

/-- The parts of a flow that may be of any shape. -/
def Flow.freeParts (flow : Flow) : List Value :=
  flow.steps.values.flatMap fun step => step.action.freeParts

/-- A flow as data, unless it is nested too deeply to be given out. -/
def Flow.output? (flow : Flow) : Option Value :=
  Value.givenOut? flow.freeParts flow.value

end FlowDesk
