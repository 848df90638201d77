/-
# Reports

How a run ended: what it found, whether and why it failed, and how many steps
it took. A run fails for a cause; the sentence that names the cause is part of
the report. A cause that has no words cannot be reported, and then there is no
report at all.
-/

import FlowDesk.Run.Call
import FlowDesk.Run.Context
import FlowDesk.Run.Event
import FlowDesk.Run.Log
import FlowDesk.Flow.Writer

namespace FlowDesk

/-- Why a run failed. -/
inductive Failure where
  | stepNotFound (key : String)
  | budgetExhausted (budget : Nat) (key : String)
  | unsupportedStep (type name : String)
  | noMapping (operation step kind : String)
  | operationFailed (operation step error : String)
  | stepError (step accident : String)
  | refused (message : String)

/-- The sentence that names the cause of a failure. -/
def Failure.message : Failure → String
  | .stepNotFound key => s!"step not found: {key}"
  | .budgetExhausted budget key =>
    s!"step budget of {budget} exhausted at step {key} (the flow may contain a cycle)"
  | .unsupportedStep type name => s!"unsupported step type: {type} in step {name}"
  | .noMapping operation step kind =>
    s!"operation {operation} in step {step} returned {kind}, expected a mapping"
  | .operationFailed operation step error =>
    s!"operation {operation} failed in step {step}: {error}"
  | .stepError step accident => s!"error in step {step}: {accident}"
  | .refused message => message

/-- The end of a run. -/
structure Report where
  context : Context
  /-- The step at which the run failed, and why. -/
  failure : Option (String × Failure)
  executed : Nat
  trace : List Event

/-- What a run comes to: its report, unless it breaks off because the cause of its
failure cannot be put into words. -/
abbrev Outcome := Except Obstacle Report

namespace Report

/-- Whether the run did not fail. -/
def success (report : Report) : Bool := report.failure.isNone

/-- The sentence that names the cause of the failure. -/
def error (report : Report) : Option String := report.failure.map fun failure => failure.2.message

/-- The step at which the run failed. -/
def failedStep (report : Report) : Option String := report.failure.map Prod.fst

/-- The log of a flow that took every event of the run; a log without room
takes none. -/
def log? (report : Report) (flow : String) (capacity : Int) : Option Log :=
  (Log.empty flow capacity).emitAll? (report.trace.map Event.note)

/-- The report as data, with the entries of a log. -/
def value (report : Report) (entries : List Entry) : Value :=
  Value.finite <| .object
    [ ("success", .bool report.success),
      ("context", report.context.value),
      ("response", .ofText? report.context.response),
      ("error", .ofText? report.error),
      ("failed_step", .ofText? report.failedStep),
      ("steps_executed", .int report.executed),
      ("events", .list (entries.map Entry.value)) ]

/-- The parts of a report with the entries of a log that may be of any shape. -/
def freeParts (report : Report) (entries : List Entry) : List Value :=
  report.context.freeParts ++ entries.map fun entry => entry.note.data

/-- The report as data, unless it is nested too deeply to be given out. -/
def output? (report : Report) (entries : List Entry) : Option Value :=
  Value.givenOut? (report.freeParts entries) (report.value entries)

end Report

end FlowDesk
