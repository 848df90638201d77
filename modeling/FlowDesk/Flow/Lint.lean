/-
# Checking flows for mistakes

A flow may be well formed and still lead nowhere. The findings are advice:
they are reported when a flow is registered, and the flow is registered all
the same.
-/

import FlowDesk.Flow.Basic
import FlowDesk.Text.Quoted

namespace FlowDesk

/-- Something about a flow that its author probably did not mean. -/
inductive Finding where
  | initialStepMissing (id : String)
  | keyMismatch (key id : String)
  | successorMissing (key target : String)
  | operationUnknown (key operation : String)
  | noKeywords
  deriving DecidableEq

/-- The sentence that reports a finding. -/
def Finding.message : Finding → String
  | .initialStepMissing id => s!"initial step {Text.quoted id} does not exist"
  | .keyMismatch key id => s!"step key {Text.quoted key} holds a step with id {Text.quoted id}"
  | .successorMissing key target =>
    s!"step {Text.quoted key} points to missing step {Text.quoted target}"
  | .operationUnknown key operation =>
    s!"step {Text.quoted key} uses unknown operation {Text.quoted operation}"
  | .noKeywords => "keyword trigger has no keywords"

namespace Step

/-- A finding when the step stands under a key that is not its id. -/
def keyFindings (key : String) (step : Step) : List Finding :=
  if step.id = key then [] else [.keyMismatch key step.id]

/-- A finding for each successor that the flow does not have. -/
def successorFindings (flow : Flow) (key : String) : List Finding :=
  (flow.successors key).filterMap fun target =>
    if flow.steps.has target then none else some (.successorMissing key target)

/-- A finding when the step runs an operation that is not among the known. -/
def operationFindings (known : Option (List String)) (key : String) (step : Step) : List Finding :=
  match known, step.operation? with
  | some names, some name => if names.contains name then [] else [.operationUnknown key name]
  | _, _ => []

end Step

namespace Flow

/-- Everything found in a flow, step by step. Operations are checked only when
the known ones are given. -/
def findings (flow : Flow) (known : Option (List String)) : List Finding :=
  (if flow.steps.has flow.initialStep then [] else [.initialStepMissing flow.initialStep]) ++
  flow.steps.flatMap (fun entry =>
    entry.2.keyFindings entry.1 ++ Step.successorFindings flow entry.1 ++
      entry.2.operationFindings known entry.1) ++
  (if flow.trigger.kind = .keyword ∧ flow.trigger.keywords = [] then [.noKeywords] else [])

end Flow

end FlowDesk
