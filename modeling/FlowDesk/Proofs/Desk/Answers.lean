/-
# The bundled flows always answer

Read backwards, a bundled flow wants nothing filled where it begins but the message:
whatever its operations come back with, as long as they keep their promises, it ends
with a response, and the slots of every response on the way are filled by operations
before it (`Bundled.wants_initialStep`).  So a desk with the bundled flows answers
every message that it has a flow for, as long as its surroundings are sound
(`bundled_flows_answer`).

Soundness leaves out a news service that sends a body which is nested too deeply.
Such a body ends the run in a failure, though other unreadable bodies do not
(`Bundled.fails_on_deep_news`).
-/

import FlowDesk.Bundled.Flows
import FlowDesk.Bundled.Regions
import FlowDesk.Desk
import FlowDesk.Proofs.Operation.Promises
import FlowDesk.Proofs.Run.Budget

namespace FlowDesk

open Calendar

variable {σ : Type}

/-! ## What a desk makes of a run -/

/-- What is made of the result of a run does not change how it is played. -/
theorem Progress.play_map {α β : Type} (f : α → β) (run : Progress α) (handler : Handler σ)
    (state : σ) :
    (run.map f).play handler state =
      let played := run.play handler state
      ⟨played.calls, played.result.map f, played.state⟩ := by
  induction run generalizing state with
  | done result => rfl
  | awaits call resume ih =>
    unfold map play
    cases handler call state with
    | mk delivery next =>
      cases delivery with
      | never => rfl
      | after turns answer => simp only [ih answer next]

/-- A course that answers comes to a report of success with a response. -/
theorem Course.Answers.report_ok {course : Course σ} {context : Context}
    (hanswers : course.Answers context) :
    ∃ report, course.report? ⟨context, 0, []⟩ = some report ∧ report.success ∧
      report.context.response.isSome := by
  unfold report?
  simp only [hanswers.ending]
  exact ⟨_, rfl, rfl, hanswers.response⟩

/-- A caller is read from the value that stands for it. -/
theorem Caller.read_value (caller : Caller) : read caller.value = .valid caller := by
  cases caller <;> rfl

namespace Catalogue

/-- A flow that is looked up is in the catalogue. -/
theorem mem_of_lookUp {catalogue : Catalogue} {id : Value} {flow : Flow}
    (hfound : catalogue.lookUp id = .ok (some flow)) : flow ∈ catalogue.flows := by
  cases id with
  | text s => exact List.mem_of_find?_eq_some (Except.ok.inj hfound)
  | _ => cases hfound

/-- A flow that is chosen is in the catalogue. -/
theorem mem_of_choose {catalogue : Catalogue} {message : Value} {flow : Flow}
    (hfound : catalogue.choose message = .ok (some flow)) : flow ∈ catalogue.flows := by
  cases message with
  | text s => exact List.mem_of_find?_eq_some (Except.ok.inj hfound)
  | _ => cases hfound

end Catalogue

namespace Desk

/-- The flow that a desk takes is one of its catalogue. -/
theorem mem_of_resolve {desk : Desk σ} {message flowId : Value} {flow : Flow}
    (hresolve : desk.resolve message flowId = .ok (some flow)) : flow ∈ desk.catalogue.flows := by
  simp only [resolve, bind, Except.bind, pure, Except.pure] at hresolve
  by_cases hgiven : flowId.truthy
  · rw [if_pos hgiven] at hresolve
    cases hnamed : desk.catalogue.lookUp flowId with
    | error fault =>
      rw [hnamed] at hresolve
      cases hresolve
    | ok named =>
      rw [hnamed] at hresolve
      cases named with
      | none => exact Catalogue.mem_of_choose hresolve
      | some own =>
        cases hresolve
        exact Catalogue.mem_of_lookUp hnamed
  · rw [if_neg hgiven] at hresolve
    exact Catalogue.mem_of_choose hresolve

/-- The course of the run with which a desk answers a request. -/
def courseOf (desk : Desk σ) (flow : Flow) (request : Request) (state : σ) : Course σ :=
  flow.graph.courseOf desk.operations.handler desk.budget flow.initialStep
    (contextFor flow request) state

/-- Without a limit of time, a desk responds with the report of the course that
the run of its flow takes. -/
theorem handle_of_report {desk : Desk σ} (htimeout : desk.timeout = none) {flow : Flow}
    {inquiry : Inquiry} {request : Request}
    (hresolve : desk.resolve inquiry.message inquiry.flowId = .ok (some flow))
    (hrequest : Request.ofInquiry inquiry = .valid request) {state : σ} {report : Report}
    (hreport : (desk.courseOf flow request state).report? ⟨contextFor flow request, 0, []⟩ =
      some report) :
    (desk.handle inquiry state).1 = .ok (some (desk.respond flow report)) := by
  have hrun : (desk.task inquiry).run = (desk.runFor flow request).map (desk.conclude flow) := by
    simp only [task, hresolve, hrequest, taskFor, htimeout]
  have hplayed : ((desk.runFor flow request).play desk.operations.handler state).result =
      some (.ok report) := by
    rw [runFor, Graph.run, Graph.play_walk]
    exact Course.outcome?_eq_ok.2 hreport
  simp only [handle, hrun, Progress.play_map, hplayed]
  rfl

/-- An inquiry for a caller holds what it was made from. -/
theorem ofInquiry_eq (message : String) (caller : Caller) (conversation : String)
    (flowId : Value) :
    Request.ofInquiry ⟨.text message, caller.value, .text conversation, flowId⟩ =
      .valid ⟨message, caller, conversation⟩ := by
  simp only [Request.ofInquiry, Caller.read_value]
  rfl

end Desk

namespace Bundled

/-- No bundled flow wants anything filled where it begins but the message, and none takes
more than four steps. -/
theorem wants_initialStep : ∀ flow ∈ flows,
    (flow.wants standardPromises 4 flow.initialStep).any (·.all (· = ["message"])) = true := by
  decide +kernel

/-- A desk serves the bundled flows in some surroundings: it has these flows and the
standard operations, allows at least four steps, and sets no limit of time. -/
structure Serves (desk : Desk σ) (around : Surroundings σ) : Prop where
  flows : desk.catalogue.flows = Bundled.flows
  operations : desk.operations = around.operations
  budget : 4 ≤ desk.budget
  timeout : desk.timeout = none

end Bundled

/-- **The bundled flows always answer.**  Over sound surroundings, a desk with the
bundled flows answers every message of every caller that it has a flow for: the
run succeeds and leaves a response, and every slot of a response on the way has a
value. -/
theorem bundled_flows_answer {around : Surroundings σ} (hsound : around.IsSound)
    {desk : Desk σ} (hdesk : Bundled.Serves desk around) (message : String) (caller : Caller)
    (conversation : String) (flowId : Option String) {flow : Flow}
    (hresolve : desk.resolve (.text message) (.ofText? flowId) = .ok (some flow)) (state : σ) :
    let request : Request := ⟨message, caller, conversation⟩
    let course := desk.courseOf flow request state
    ∃ report entries,
      (desk.handle ⟨.text message, caller.value, .text conversation, .ofText? flowId⟩ state).1 =
        .ok (some (.finished flow report entries)) ∧
      course.report? ⟨Desk.contextFor flow request, 0, []⟩ = some report ∧
      report.success ∧ report.context.response.isSome ∧ ∀ visit ∈ course.visits, visit.Filled := by
  intro request course
  have hmem : flow ∈ Bundled.flows := hdesk.flows ▸ Desk.mem_of_resolve hresolve
  have hkept : standardPromises.KeptBy desk.operations.handler :=
    hdesk.operations ▸ around.keptBy_promises hsound
  obtain ⟨paths, hwants, hmessage⟩ :=
    (Option.any_eq_true _ _).1 (Bundled.wants_initialStep flow hmem)
  have hfilled : ∀ path ∈ paths,
      (Value.object (Desk.contextFor flow request).bindings).Fills path := by
    intro path hpath
    have hnamed : path = ["message"] := by simpa using List.all_eq_true.1 hmessage path hpath
    rw [hnamed]
    exact Value.fills_of_text rfl
  have hanswers : course.Answers (Desk.contextFor flow request) :=
    Graph.course_answers hkept desk.budget hdesk.budget flow.initialStep _ state hwants hfilled
  obtain ⟨report, hreport, hsuccess, hresponse⟩ := hanswers.report_ok
  have hhandle := Desk.handle_of_report hdesk.timeout hresolve
    (Desk.ofInquiry_eq message caller conversation (.ofText? flowId)) hreport
  exact ⟨report, _, hhandle, hreport, hsuccess, hresponse, hanswers.filled⟩

/-- A client is looked up in a book with one client and one meeting, by the flow
that is asked for. -/
theorem bundled_flows_answer_profile :
    let seed : Value := .object
      [ ("clients", .list [.object
          [ ("id", .int 1), ("advisor_id", .int 7), ("first_name", .text "Mario"),
            ("last_name", .text "Rossi"), ("is_onboarded", .bool true),
            ("assets", .list [.object [("value", .int 10)]]) ]]),
        ("meetings", .list [.object
          [ ("id", .int 1), ("advisor_id", .int 7), ("subject", .text "Review"),
            ("date_time", .text "2025-01-02"), ("client_id", .int 1) ]]) ]
    let clock : Moment := ⟨⟨63871372800000000, by decide, by decide⟩, .region .rome, false⟩
    let fetch : News.Fetcher Unit := fun _ state => (.unreachable, state)
    ∃ book, Book.ofSeed (.region .rome) seed = .ok book ∧
      let around : Surroundings Unit := ⟨book, .rome, clock, "http://localhost:9100", fetch⟩
      let desk : Desk Unit := ⟨⟨Bundled.flows, by decide⟩, around.operations, 100, none, true⟩
      around.IsSound ∧
      desk.resolve (.text "Who is Mario Rossi?") (.text "client_lookup") =
        .ok (some Bundled.clientLookup) ∧
      ∃ report entries,
        (desk.handle ⟨.text "Who is Mario Rossi?", .int 7, .text "", .text "client_lookup"⟩ ()).1 =
          .ok (some (.finished Bundled.clientLookup report entries)) ∧
        report.success ∧ report.context.response.isSome := by
  intro seed clock fetch
  let client : Client := ⟨.int 1, .int 7, .text "Mario", .text "Rossi", .text "", .text "",
    .bool false, .bool true, .text "", .text "", .list [.object [("value", .int 10)]]⟩
  let meeting : Meeting := ⟨.int 1, .int 7, .text "Review", clock, .int 60, .int 1, .text "",
    .text ""⟩
  have hrecords : Book.records (.region .rome) seed = .ok ⟨[client], [meeting]⟩ := rfl
  have hseed : Book.ofSeed (.region .rome) seed =
      .ok (Records.mk [client] [meeting]).book := by
    rw [Book.ofSeed_eq, hrecords]
    rfl
  refine ⟨_, hseed, ?_⟩
  intro around desk
  have hsound : around.IsSound := by
    refine ⟨⟨seed, hseed⟩, ?_, ?_, trivial, by decide, ?_, fun _ _ => trivial⟩
    · intro own hown
      rw [List.mem_singleton.1 hown]
      refine ⟨⟨_, rfl⟩, ⟨_, rfl⟩, ⟨_, rfl⟩, ⟨_, rfl⟩, ⟨_, rfl⟩, ⟨_, rfl⟩, _, rfl, ?_⟩
      intro asset hasset
      rw [List.mem_singleton.1 hasset]
      refine ⟨_, rfl, fun worth hworth _ => ?_⟩
      cases hworth
      exact ⟨_, rfl⟩
    · intro own hown
      rw [List.mem_singleton.1 ((Sorting.sort_perm _ _).mem_iff.1 hown)]
      decide
    · have hok : (News.address "http://localhost:9100" 5).toOption.isSome := by decide +kernel
      cases haddress : News.address "http://localhost:9100" 5 with
      | ok address => exact ⟨address, rfl⟩
      | error error =>
        rw [haddress] at hok
        cases hok
  have hresolve : desk.resolve (.text "Who is Mario Rossi?") (.text "client_lookup") =
      .ok (some Bundled.clientLookup) := rfl
  obtain ⟨report, entries, hhandle, -, hsuccess, hresponse, -⟩ :=
    bundled_flows_answer hsound ⟨rfl, rfl, by decide, rfl⟩ "Who is Mario Rossi?" (.number 7) ""
      (some "client_lookup") hresolve ()
  exact ⟨hsound, hresolve, report, entries, hhandle, hsuccess, hresponse⟩

/-- A body that is nested too deeply ends the run of the news flow in a failure,
without a response, although the flow has a step for news that are unavailable. -/
theorem Bundled.fails_on_deep_news {around : Surroundings σ} {desk : Desk σ}
    (hdesk : Serves desk around) {address : Address}
    (haddress : News.address around.newsAddress 5 = .ok address)
    (habsolute : address.isAbsolute) (message : String) (caller : Caller)
    (conversation : String) (flowId : Option String)
    (hresolve : desk.resolve (.text message) (.ofText? flowId) = .ok (some financialNews))
    {state : σ} {status : Int} {error : Json.ReadError}
    (hfetch : (around.fetch address.text state).1 = .response status (.error error))
    (hleast : 200 ≤ status) (hgreatest : status < 300) (hdeep : ¬ News.IsShallow error) :
    ∃ report entries,
      (desk.handle ⟨.text message, caller.value, .text conversation, .ofText? flowId⟩ state).1 =
        .ok (some (.finished financialNews report entries)) ∧
      report.failure = some ("get_news", .stepError "Get News" error.message) ∧
      report.context.response = none := by
  let request : Request := ⟨message, caller, conversation⟩
  let context := Desk.contextFor financialNews request
  let ask : Step := ⟨"get_news", "Get News", none, .operation "get_financial_news"
    [("max_results", .int 5)] ["news", "count", "headlines"] (some "has_news")
    (some "news_unavailable")⟩
  have hnode : financialNews.graph.nodes.at? "get_news" = some (.step ask) := rfl
  have hconsult : ((Node.step ask).consult desk.operations.handler context state).1 =
      some (.fault (.unreadable error)) := by
    have hnews := Surroundings.handler_news haddress caller.value state
    rw [hfetch, News.answer_deep habsolute 5 hleast hgreatest hdeep, ← hdesk.operations] at hnews
    exact congrArg Delivery.answer? hnews
  have heffect : (Node.step ask).effect? "get_news" context
      ((Node.step ask).consult desk.operations.handler context state).1 =
        some ⟨context, [], .fail (.stepError "Get News" error.message)⟩ := by
    rw [hconsult]
    rfl
  obtain ⟨left, hleft⟩ := Nat.exists_eq_add_of_le' (Nat.le_trans (by decide : 1 ≤ 4) hdesk.budget)
  obtain ⟨later, hcourse⟩ : ∃ later, desk.courseOf financialNews request state =
      ⟨[⟨"get_news", .step ask, context, some (.fault (.unreadable error))⟩],
        .failed "get_news" (.stepError "Get News" error.message), later⟩ := by
    have hfirst := Graph.course_of_effect? hnode heffect desk.budget left
    simp only [hconsult] at hfirst
    rw [Desk.courseOf, Graph.courseOf]
    nth_rewrite 2 [hleft]
    exact ⟨_, hfirst⟩
  obtain ⟨report, hreport, hfailure⟩ := Course.report?_of_failed ⟨context, 0, []⟩
    (congrArg Course.ending hcourse)
  have hcontext : report.context = context := by
    rw [(Course.report?_eq_some hreport).1, hcourse]
    rfl
  exact ⟨report, _, Desk.handle_of_report hdesk.timeout hresolve
    (Desk.ofInquiry_eq message caller conversation (.ofText? flowId)) hreport, hfailure,
    congrArg Context.response hcontext⟩

end FlowDesk
