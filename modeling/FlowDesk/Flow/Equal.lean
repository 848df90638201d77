/-
# Equality of flows

Two flows are equal when all their fields are. The values in arguments and
guards are compared as values, and tables without regard to order.
-/

import FlowDesk.Flow.Basic

namespace FlowDesk

/-- Whether two guards ask the same. -/
def Guard.same (a b : Guard) : Bool :=
  a.field == b.field && decide (a.operator = b.operator) && a.expected.same b.expected

/-- Whether two actions do the same. -/
def Action.same : Action → Action → Bool
  | .operation name args bindings success failure,
    .operation name' args' bindings' success' failure' =>
    name == name' && (Value.object args).same (.object args') && bindings == bindings' &&
      success == success' && failure == failure'
  | .branch guard onTrue onFalse, .branch guard' onTrue' onFalse' =>
    guard.same guard' && onTrue == onTrue' && onFalse == onFalse'
  | .response template, .response template' => template == template'
  | _, _ => false

/-- Whether two steps are equal. -/
def Step.same (a b : Step) : Bool :=
  a.id == b.id && a.name == b.name && a.next == b.next && a.action.same b.action

/-- Whether two flows are equal. -/
def Flow.same (a b : Flow) : Bool :=
  a.id == b.id && a.name == b.name && a.description == b.description &&
    decide (a.trigger = b.trigger) && a.initialStep == b.initialStep &&
    a.steps.length == b.steps.length &&
    a.steps.all fun entry => match b.steps.at? entry.1 with
      | some step => entry.2.same step
      | none => false

end FlowDesk
