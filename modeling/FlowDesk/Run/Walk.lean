/-
# Walking a flow

A run starts at a step and goes from step to step until one has no successor.
An operation is called with its arguments filled in from the variables; its
result is kept, the variables it lists are taken over when it succeeded, and
its success chooses the next step. A branch asks its guard. A response
renders its template. The number of steps is bounded by a budget, so a walk
ends on any graph.

A step that has to put something into text and cannot fails like one whose
operation met an accident. When the failure itself cannot be put into words, the
run breaks off.
-/

import FlowDesk.Flow.Basic
import FlowDesk.Run.Progress
import FlowDesk.Run.Report
import FlowDesk.Template

namespace FlowDesk

/-- Something that stands in a step's place and is no step. -/
structure Stranger where
  /-- The name of its kind, reported when it does not state a type. -/
  kind : String
  type : Option Value
  name : Option Value
  id : Option Value

/-- What a key of a graph holds. -/
inductive Node where
  | step (step : Step)
  | stranger (stranger : Stranger)

/-- The steps of a flow as a run sees them. -/
structure Graph where
  flow : String
  nodes : Table Node

/-- The graph of a flow. -/
def Flow.graph (flow : Flow) : Graph :=
  ⟨flow.id, flow.steps.map fun entry => (entry.1, .step entry.2)⟩

/-- Put nodes over those of a graph. -/
def Graph.overlay (graph : Graph) (nodes : List (String × Node)) : Graph :=
  { graph with nodes := graph.nodes.putAll nodes }

/-- The type that a stranger states. -/
def Stranger.statedType (stranger : Stranger) : Value :=
  stranger.type.getD (.text stranger.kind)

/-- The name by which a stranger is reported. -/
def Stranger.statedName (stranger : Stranger) : Value :=
  match stranger.name with
  | some name => if name.truthy then name else stranger.id.getD (.text "?")
  | none => stranger.id.getD (.text "?")

/-- The type of a node as the trace records it. -/
def Node.type : Node → Value
  | .step own => .text own.action.tag
  | .stranger other => other.statedType

/-- How far a run has come. The trail holds the events so far, the newest one
first. -/
structure Journey where
  context : Context
  executed : Nat
  trail : List Event

/-- Where a step leads. -/
inductive Verdict where
  | goTo (key : String)
  | stop
  | fail (cause : Failure)
  | breakOff (obstacle : Obstacle)

/-- What a step leaves behind: the context, the events of its own, and where
it leads. -/
structure Effect where
  context : Context
  events : List Event
  verdict : Verdict

/-- Go to the first successor that is named, or stop. -/
def Verdict.toFirst (targets : List (Option String)) : Verdict :=
  match targets.findSome? fun target => target.filter (· ≠ "") with
  | some key => .goTo key
  | none => .stop

/-- Fail for a cause, or break off when the cause has no words. -/
def Verdict.ofFailure : Except Obstacle Failure → Verdict
  | .ok cause => .fail cause
  | .error obstacle => .breakOff obstacle

/-- Why something that is no step fails. It is reported by its type and its name;
when one of them cannot be written, that is an accident of what stands under the
key. -/
def Stranger.failure (stranger : Stranger) (key : String) : Except Obstacle Failure :=
  let unsupported : Except Obstacle Failure := do
    let type ← stranger.statedType.shown?
    let name ← stranger.statedName.shown?
    return .unsupportedStep type name
  match unsupported with
  | .ok cause => .ok cause
  | .error obstacle =>
    (stranger.name.getD (.text key)).shown?.map fun name => .stepError name obstacle.message

/-- The listed fields that a result has, in the order of the list. -/
def extracted (bindings : List String) (result : Fields) : List (String × Value) :=
  bindings.filterMap fun name => (result.at? name).map fun v => (name, v)

/-- Whether a result says that the operation succeeded. -/
def succeeded (result : Fields) : Bool :=
  match result.at? "success" with
  | some (.bool true) => true
  | _ => false

namespace Step

/-- The call that an operation step makes, if its arguments can be filled in. -/
def call (context : Context) (operation : String) (args : Fields) : Except Obstacle Call :=
  (Template.fill context.bindings (.object args)).map fun filled =>
    ⟨operation, filled, context.caller.value⟩

/-- Why a step fails that met an accident. A refusal speaks for itself. -/
def accident (step : Step) : Fault → Except Obstacle Failure
  | .refusal _ words => (Fault.told words).map .refused
  | fault => fault.message.map (.stepError step.name)

/-- What an accident leaves behind. -/
def meet (step : Step) (fault : Fault) (context : Context) : Effect :=
  ⟨context, [], .ofFailure (step.accident fault)⟩

/-- Why a step fails on a result without success. -/
def rejection (step : Step) (operation : String) (result : Fields) : Failure :=
  match ((result.at? "error").getD (.text "unknown error")).shown? with
  | .ok error => .operationFailed operation step.name error
  | .error obstacle => .stepError step.name obstacle.message

/-- What an operation step makes of a result. -/
def settleResult (step : Step) (operation : String) (bindings : List String)
    (onSuccess onFailure : Option String) (context : Context) (result : Fields) : Effect :=
  let success := succeeded result
  let taken := if success then extracted bindings result else []
  let context := { context with
    result := some result
    bindings := context.bindings.putAll taken }
  let error := if success then .null else .ofOption (result.at? "error")
  { context
    events := [.operationCompleted step.id operation success (taken.map Prod.fst) error]
    verdict :=
      if success then .toFirst [onSuccess, step.next]
      else match onFailure.filter (· ≠ "") with
        | some key => .goTo key
        | none => .fail (step.rejection operation result) }

/-- What an operation step makes of an answer. -/
def settle (step : Step) (operation : String) (bindings : List String)
    (onSuccess onFailure : Option String) (context : Context) : Answer → Effect
  | .value (.object result) =>
    step.settleResult operation bindings onSuccess onFailure context result
  | .value v => ⟨context, [], .fail (.noMapping operation step.name v.kindName)⟩
  | .fault fault => step.meet fault context

/-- What a branch step does. -/
def decide (step : Step) (guard : Guard) (onTrue onFalse : Option String)
    (context : Context) : Effect :=
  match guard.holds context with
  | .error obstacle => step.meet (.unwritten obstacle) context
  | .ok result =>
    { context
      events := [.branchEvaluated step.id guard.field guard.operator result]
      verdict := .toFirst (if result then [onTrue, step.next] else [onFalse]) }

/-- The response after a template; an empty template leaves the response alone. -/
def response (template : String) (context : Context) : Except Obstacle (Option String) :=
  if template = "" then .ok context.response
  else (Template.expandText context.bindings template).map some

/-- What a response step does. -/
def respond (step : Step) (template : String) (context : Context) : Effect :=
  match response template context with
  | .error obstacle => step.meet (.unwritten obstacle) context
  | .ok response =>
    { context := { context with response := response }
      events := [.responseRendered step.id (response.getD "").length]
      verdict := .toFirst [step.next] }

end Step

namespace Journey

/-- The events so far, in order. -/
def trace (journey : Journey) : List Event := journey.trail.reverse

/-- Enter a node. -/
def enter (journey : Journey) (key : String) (node : Node) : Journey :=
  { journey with
    executed := journey.executed + 1
    trail := .stepStarted key node.type :: journey.trail }

/-- The report of a run that ends here without a failure. -/
def finish (journey : Journey) : Report :=
  ⟨journey.context, none, journey.executed, journey.trace⟩

/-- The report of a run that fails here. -/
def fail (journey : Journey) (key : String) (cause : Failure) : Report :=
  ⟨journey.context, some (key, cause), journey.executed,
    journey.trace ++ [.stepFailed key cause.message]⟩

/-- Take over what a step left behind. -/
def after (journey : Journey) (effect : Effect) : Journey :=
  { journey with
    context := effect.context
    trail := effect.events.reverse ++ journey.trail }

/-- Record the way from one step to the next. -/
def moveTo (journey : Journey) (source target : String) : Journey :=
  { journey with trail := .transition source target :: journey.trail }

@[simp] theorem trace_enter (journey : Journey) (key : String) (node : Node) :
    (journey.enter key node).trace = journey.trace ++ [.stepStarted key node.type] := by
  simp [trace, enter]

@[simp] theorem trace_after (journey : Journey) (effect : Effect) :
    (journey.after effect).trace = journey.trace ++ effect.events := by
  simp [trace, after]

@[simp] theorem trace_moveTo (journey : Journey) (source target : String) :
    (journey.moveTo source target).trace = journey.trace ++ [.transition source target] := by
  simp [trace, moveTo]

end Journey

namespace Graph

/-- Walk on from a key, with `left` steps left of a budget. -/
def walk (graph : Graph) (budget : Nat) : Nat → String → Journey → Progress Outcome
  | left, key, journey =>
    match graph.nodes.at? key with
    | none => .done (.ok (journey.fail key (.stepNotFound key)))
    | some node =>
      match left with
      | 0 => .done (.ok (journey.fail key (.budgetExhausted budget key)))
      | left + 1 =>
        let entered := journey.enter key node
        let proceed (effect : Effect) : Progress Outcome :=
          let reached := entered.after effect
          match effect.verdict with
          | .goTo target => graph.walk budget left target (reached.moveTo key target)
          | .stop => .done (.ok reached.finish)
          | .fail cause => .done (.ok (reached.fail key cause))
          | .breakOff obstacle => .done (.error obstacle)
        match node with
        | .stranger stranger => proceed ⟨entered.context, [], .ofFailure (stranger.failure key)⟩
        | .step step =>
          match step.action with
          | .operation operation args bindings onSuccess onFailure =>
            match Step.call entered.context operation args with
            | .error obstacle => proceed (step.meet (.unwritten obstacle) entered.context)
            | .ok call => .awaits call fun answer =>
              proceed (step.settle operation bindings onSuccess onFailure entered.context answer)
          | .branch guard onTrue onFalse =>
            proceed (step.decide guard onTrue onFalse entered.context)
          | .response template => proceed (step.respond template entered.context)

/-- A run from a start key within a budget of steps. -/
def run (graph : Graph) (budget : Nat) (start : String) (context : Context) : Progress Outcome :=
  graph.walk budget budget start ⟨context, 0, []⟩

end Graph

/-- A budget must allow one step at least. -/
def budget? (steps : Int) : Option Nat :=
  if steps < 1 then none else some steps.toNat

/-- The sentence that refuses a budget. -/
def budgetMessage : String := "max_steps must be at least 1"

end FlowDesk
