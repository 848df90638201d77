/-
# The desk on the web

Requests over the web and the responses to them. Everything but the health
check is behind a shared key; answering a message also needs the number of
the caller. The body of a request with a message is read before either is asked
for, so a body that cannot be read is reported to anyone; what a body holds is
looked at only behind the door. A request that cannot be sent gets no response at
all.
-/

import FlowDesk.Desk
import FlowDesk.Json.Writer
import FlowDesk.Web.Call
import FlowDesk.Web.Route

namespace FlowDesk.Web

/-- Why there is no response. -/
inductive Breakdown where
  /-- The request has no address. -/
  | address (error : Address.Error)
  /-- A header holds characters outside ASCII. -/
  | header
  /-- The address asks for a lasting connection. -/
  | lasting
  /-- The scheme of the address is unknown. -/
  | scheme
  /-- The response is nested too deeply to be given out. -/
  | tooDeep
  /-- The response cannot be written. -/
  | unwritten (obstacle : Obstacle)
  /-- An accident on the way to a response. -/
  | accident (fault : Fault)
  /-- An answer never comes. -/
  | unanswered

/-- A response: its status, its body, and whether it asks for a key. -/
structure Reply where
  status : Nat
  body : Value
  asksForKey : Bool

/-- How requests are let in: the key, if one is set, and whether everyone is
when none is. -/
structure Door where
  key : String
  debug : Bool

/-- A response that explains itself. -/
def refusal (status : Nat) (detail : String) : Reply :=
  ⟨status, .object [("detail", .text detail)], false⟩

/-- Why a request is not let in, if it is not. -/
def Door.refusal? (door : Door) (call : Call) : Option Reply :=
  if door.key = "" then
    if door.debug then none
    else some (refusal 403 "API key not configured. Set API_KEY in .env.")
  else if call.key? = some door.key then none
  else some { refusal 401 "Invalid or missing API token." with asksForKey := true }

/-- The number of the caller, or why there is none. -/
def Call.caller (call : Call) : Except Reply Int :=
  match (call.header? "x-caller-id").filter (· ≠ "") with
  | none => .error (refusal 401 "User not authenticated.")
  | some text => match Numeral.integer? text with
    | some n => .ok n
    | none => .error (refusal 401 "Invalid caller id.")

/-- A problem with the body of a request. -/
def problemValue (problem : Problem) : Value :=
  .object (problem.report [.field "body"] ++ [("input", problem.found)])

/-- The response to a body that does not fit. -/
def unfit (problems : List Problem) : Reply :=
  ⟨422, .object [("detail", .list (problems.map problemValue))], false⟩

/-- A flow in the list of flows. -/
def flowSummary (flow : Flow) : Value :=
  .object
    [ ("id", .text flow.id),
      ("name", .text flow.name),
      ("description", .text flow.description),
      ("trigger", .text flow.trigger.kind.name),
      ("keywords", .ofTexts flow.trigger.keywords) ]

/-- A response that gives out data, which have to be written for it. -/
def give (status : Nat) (data : Value) : Except Breakdown Reply :=
  match Json.text? data with
  | .ok _ => .ok ⟨status, data, false⟩
  | .error obstacle => .error (.unwritten obstacle)

variable {σ : Type}

/-- The response to a question about the desk. -/
def info (desk : Desk σ) : Route → Except Breakdown Reply
  | .health => .ok
    ⟨200, .object [("status", .text "ok"), ("flows", .int desk.catalogue.flows.length)], false⟩
  | .flows => .ok ⟨200, .list (desk.catalogue.flows.map flowSummary), false⟩
  | .flow id => match desk.catalogue.find? id with
    | some flow => match flow.output? with
      | some data => give 200 data
      | none => .error .tooDeep
    | none => .ok ⟨404, .object [("error", .text "Flow not found")], false⟩
  | .operations => .ok ⟨200, desk.operations.description, false⟩
  | .answer => .ok (refusal 405 "Method Not Allowed")

/-- The response to an answered message. -/
def ofResponse (response : Response) : Except Breakdown Reply :=
  match response.output? with
  | some data => give (if response.error = some Response.noFlowMessage then 404 else 200) data
  | none => .error .tooDeep

/-- The response to a body that cannot be read. -/
def unreadable : Reply := refusal 400 "There was an error parsing the body"

/-- Answer the message of a request. -/
def answer (door : Door) (desk : Desk σ) (call : Call) (state : σ) :
    Except Breakdown Reply × σ :=
  match call.content with
  | .error _ => (.ok unreadable, state)
  | .ok content =>
    match door.refusal? call with
    | some reply => (.ok reply, state)
    | none =>
      match call.caller with
      | .error reply => (.ok reply, state)
      | .ok caller =>
        match Message.read content with
        | .invalid problems => (.ok (unfit problems), state)
        | .valid body =>
          let inquiry : Inquiry :=
            ⟨.text body.message, .int caller, .text body.conversation, .ofText? body.flowId⟩
          match desk.handle inquiry state with
          | (.ok (some response), next) => (ofResponse response, next)
          | (.ok none, next) => (.error .unanswered, next)
          | (.error (.accident fault), next) => (.error (.accident fault), next)
          | (.error (.unfit problems), next) => (.ok (unfit problems), next)

/-- Respond to what arrives at a path. -/
def receive (door : Door) (desk : Desk σ) (path : String) (call : Call) (state : σ) :
    Except Breakdown Reply × σ :=
  match route? path with
  | none => (.ok (refusal 404 "Not Found"), state)
  | some route =>
    if call.method.toUpper ≠ route.method then (.ok (refusal 405 "Method Not Allowed"), state)
    else match route with
      | .health => (info desk .health, state)
      | .answer => answer door desk call state
      | route => match door.refusal? call with
        | some reply => (.ok reply, state)
        | none => (info desk route, state)

/-- Whether a text is in ASCII. -/
def isAscii (s : String) : Bool := s.toList.all fun c => c.toNat < 128

/-- A request as it is sent: an address that says who asks takes the place of
every authorization. -/
def Call.sentTo (call : Call) (target : Address) : Call :=
  if target.user = "" || target.user = ":" then call
  else { call with
    headers := call.headers.filter fun header => Text.lower header.1 ≠ "authorization" }

/-- Where a request is sent, if it can be. -/
def Call.destination (call : Call) : Except Breakdown Address :=
  match target call.address with
  | .error error => .error (.address error)
  | .ok target =>
    if !call.headers.all fun header => isAscii header.1 && isAscii header.2 then .error .header
    else if target.scheme = "ws" || target.scheme = "wss" then .error .lasting
    else if target.scheme ≠ "http" && target.scheme ≠ "https" then .error .scheme
    else .ok target

/-- Respond to a request. -/
def respond (door : Door) (desk : Desk σ) (call : Call) (state : σ) :
    Except Breakdown Reply × σ :=
  match call.destination with
  | .error breakdown => (.error breakdown, state)
  | .ok target => receive door desk (plainPath target) (call.sentTo target) state

end FlowDesk.Web
