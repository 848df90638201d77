/-
# The desk

A desk answers messages. It takes the flow that is asked for by id, or else
the first one whose keywords occur in the message, and runs it for the caller
with a context of its own. A run that takes too long is given up. What an
inquiry holds is looked at only as far as that: its parts have to be sound
before a flow runs, but not when there is none to run.
-/

import FlowDesk.Catalogue
import FlowDesk.Operation.Basic
import FlowDesk.Run.Intake
import FlowDesk.Run.Together
import FlowDesk.Run.Walk

namespace FlowDesk

/-- A message to answer, as it comes in. -/
structure Inquiry where
  message : Value
  caller : Value
  conversation : Value
  flowId : Value

/-- A message to answer with a flow. -/
structure Request where
  message : String
  caller : Caller
  conversation : String

/-- Read what an inquiry holds besides the id of a flow. -/
def Request.ofInquiry (inquiry : Inquiry) : Checked Request :=
  mk <$> (Checked.text inquiry.message).within (.field "message")
    <*> (Caller.read inquiry.caller).within (.field "caller_id")
    <*> (Checked.text inquiry.conversation).within (.field "conversation_id")

/-- Why an inquiry gets no response. -/
inductive Rejection where
  | accident (fault : Fault)
  | unfit (problems : List Problem)

/-- What a desk has to say to a message. -/
inductive Response where
  | noFlow
  | timedOut (flow : Flow) (seconds : Binary64)
  | finished (flow : Flow) (report : Report) (entries : List Entry)

/-- A desk. -/
structure Desk (σ : Type) where
  catalogue : Catalogue
  operations : Operations σ
  budget : Nat
  /-- The seconds after which a run is given up. -/
  timeout : Option Binary64
  /-- Whether responses carry the trace of the run. -/
  recording : Bool

namespace Response

/-- The sentence of a desk without a flow for a message. -/
def noFlowMessage : String := "no flow found for this message"

/-- Whether the message was answered. -/
def success : Response → Bool
  | .finished _ report _ => report.success
  | _ => false

/-- The sentence that says why the message was not answered. -/
def error : Response → Option String
  | .noFlow => some noFlowMessage
  | .timedOut flow seconds => some s!"flow {flow.id} timed out after {seconds.compactText}s"
  | .finished _ report _ => report.error

/-- The text for the user. -/
def text : Response → Option String
  | .finished _ report _ => report.context.response
  | _ => none

/-- The response as data. -/
def value (response : Response) : Value :=
  let fields (flow : Option Flow) (result : Value) : Value := .object
    [ ("success", .bool response.success),
      ("flow_id", .ofText? (flow.map Flow.id)),
      ("flow_name", .ofText? (flow.map Flow.name)),
      ("result", result),
      ("error", .ofText? response.error) ]
  match response with
  | .noFlow => fields none .null
  | .timedOut flow _ => fields (some flow) .null
  | .finished flow report entries => fields (some flow) (report.value entries)

/-- The parts of a response that may be of any shape. -/
def freeParts : Response → List Value
  | .finished _ report entries => report.freeParts entries
  | _ => []

/-- The response as data, unless it is nested too deeply to be given out. -/
def output? (response : Response) : Option Value :=
  Value.givenOut? response.freeParts response.value

end Response

namespace Desk

variable {σ : Type}

/-- The flow for a message: the one with the given id, or the first whose
trigger fires. -/
def resolve (desk : Desk σ) (message flowId : Value) : Except Fault (Option Flow) := do
  let named ← if flowId.truthy then desk.catalogue.lookUp flowId else pure none
  match named with
  | some flow => return some flow
  | none => desk.catalogue.choose message

/-- The context in which a flow begins to answer a message. -/
def contextFor (flow : Flow) (request : Request) : Context where
  message := request.message
  caller := request.caller
  conversation := request.conversation
  flowId := flow.id
  flowName := flow.name
  result := none
  response := none
  bindings :=
    [("message", .text request.message), ("conversation_id", .text request.conversation)]

/-- The run of a flow for a request. -/
def runFor (desk : Desk σ) (flow : Flow) (request : Request) : Progress Outcome :=
  flow.graph.run desk.budget flow.initialStep (contextFor flow request)

/-- The response to a finished run. -/
def respond (desk : Desk σ) (flow : Flow) (report : Report) : Response :=
  let entries := match report.log? flow.id Log.usualCapacity with
    | some log => log.entries
    | none => []
  .finished flow report (if desk.recording then entries else [])

end Desk

/-- An inquiry on its way to a response: a run that ends in one, or in a
rejection, and the response if the run has to be given up. -/
structure Task where
  run : Progress (Except Rejection Response)
  givenUp : Option Response

/-- What a task comes to. There is no response when a call is never answered
and nothing gives the run up. -/
def Task.settle (task : Task) :
    Option (Except Rejection Response) → Except Rejection (Option Response)
  | some (.ok response) => .ok (some response)
  | some (.error rejection) => .error rejection
  | none => .ok task.givenUp

/-- A task that is done at once. -/
def Task.done (result : Except Rejection Response) : Task := ⟨.done result, none⟩

namespace Desk

variable {σ : Type}

/-- What a desk makes of the end of a run: a response, unless the run broke off. -/
def conclude (desk : Desk σ) (flow : Flow) : Outcome → Except Rejection Response
  | .ok report => .ok (desk.respond flow report)
  | .error obstacle => .error (.accident (.unwritten obstacle))

/-- The task of running a flow for a request. When there is no time at all,
the run is given up before its first step. -/
def taskFor (desk : Desk σ) (flow : Flow) (request : Request) : Task :=
  let run := (desk.runFor flow request).map (desk.conclude flow)
  match desk.timeout with
  | none => ⟨run, none⟩
  | some seconds =>
    let late := Response.timedOut flow seconds
    ⟨if seconds.notPositive then .done (.ok late) else run, some late⟩

/-- The task of answering an inquiry. One that is not sound is rejected, but
only when there is a flow to run. -/
def task (desk : Desk σ) (inquiry : Inquiry) : Task :=
  match desk.resolve inquiry.message inquiry.flowId with
  | .error fault => .done (.error (.accident fault))
  | .ok none => .done (.ok .noFlow)
  | .ok (some flow) =>
    match Request.ofInquiry inquiry with
    | .invalid problems => .done (.error (.unfit problems))
    | .valid request => desk.taskFor flow request

/-- Answer an inquiry. -/
def handle (desk : Desk σ) (inquiry : Inquiry) (state : σ) :
    Except Rejection (Option Response) × σ :=
  let task := desk.task inquiry
  let played := task.run.play desk.operations.handler state
  (task.settle played.result, played.state)

/-- Answer inquiries side by side. -/
def handleAll (desk : Desk σ) (inquiries : List Inquiry) (state : σ) :
    List (Except Rejection (Option Response)) × σ :=
  let tasks := inquiries.map desk.task
  let (results, next) := Progress.playAll desk.operations.handler (tasks.map Task.run) state
  (List.zipWith Task.settle tasks results, next)

end Desk

end FlowDesk
