/-
# Flows

A flow is a directed graph of steps, found by their keys. A step runs an
operation, asks a guard, or renders a response, and names the steps that may
come next; a step without a next one ends the run. A trigger says which
messages start the flow.
-/

import FlowDesk.Guard

namespace FlowDesk

/-- What a step does, with the successors that only this kind of step has. -/
inductive Action where
  | operation (name : String) (args : Fields) (bindings : List String)
      (onSuccess onFailure : Option String)
  | branch (guard : Guard) (onTrue onFalse : Option String)
  | response (template : String)

/-- The word for an action in flow files. -/
def Action.tag : Action → String
  | .operation .. => "operation"
  | .branch .. => "branch"
  | .response _ => "response"

/-- A step of a flow. -/
structure Step where
  id : String
  name : String
  next : Option String
  action : Action

/-- How a flow is started. -/
inductive TriggerKind where
  | keyword
  | intent
  deriving DecidableEq

/-- The word for a kind of trigger in flow files. -/
def TriggerKind.name : TriggerKind → String
  | .keyword => "keyword"
  | .intent => "intent"

/-- What starts a flow. -/
structure Trigger where
  kind : TriggerKind
  keywords : List String
  deriving DecidableEq

/-- A trigger by keywords, of which there are none yet. -/
def Trigger.none : Trigger := ⟨.keyword, []⟩

/-- A flow. -/
structure Flow where
  id : String
  name : String
  description : String
  trigger : Trigger
  initialStep : String
  steps : Table Step

namespace Step

/-- The successors that a step names, in the order of its fields; an absent
or empty name is no successor. -/
def successors (step : Step) : List String :=
  let named := match step.action with
    | .operation _ _ _ onSuccess onFailure => [step.next, onSuccess, onFailure]
    | .branch _ onTrue onFalse => [step.next, onTrue, onFalse]
    | .response _ => [step.next]
  named.filterMap fun target => target.filter (· ≠ "")

/-- The operation that a step runs. -/
def operation? (step : Step) : Option String :=
  match step.action with
  | .operation name .. => some name
  | _ => none

end Step

namespace Flow

/-- The successors of the step with a key; an absent step has none. -/
def successors (flow : Flow) (key : String) : List String :=
  match flow.steps.at? key with
  | some step => step.successors
  | none => []

end Flow

end FlowDesk
