/-
# Where a run of a checked flow can come

The check of a flow reports successors that do not exist and operations that
nobody knows.  It says nothing about cycles, and the steps of a flow may stand
under keys that are not their ids.  A flow without such findings is closed
(`Flow.Closed`), and that alone keeps every run of it inside the flow: one step
of a course leads from a key to one of its successors, and so does a course of
any length, whatever the operations answer and wherever the budget stops it.

The main result is `run_stays_inside`.
-/

import FlowDesk.Proofs.Run.Soundness
import FlowDesk.Proofs.Value.Writable
import Mathlib.Data.List.Chain

namespace FlowDesk

/-! ## Keys that a run comes to -/

/-- The key at which a run stood when it failed before it entered a node: there
is none under the key, or no step left of the budget. -/
def Failure.unentered? : Failure → Option String
  | .stepNotFound key => some key
  | .budgetExhausted _ key => some key
  | _ => none

/-- Something that is no step fails for what it is. -/
theorem Stranger.unentered?_failure {stranger : Stranger} {key : String} {cause : Failure}
    (hcause : stranger.failure key = .ok cause) : cause.unentered? = none := by
  unfold failure at hcause
  dsimp only at hcause
  split at hcause
  · rename_i told hunsupported
    cases hcause
    obtain ⟨type, -, hname⟩ := Except.bind_eq_ok.1 hunsupported
    obtain ⟨name, -, hcause⟩ := Except.bind_eq_ok.1 hname
    cases hcause
    rfl
  · obtain ⟨name, -, rfl⟩ := Except.map_eq_ok.1 hcause
    rfl

/-- A step that met an accident fails for this. -/
theorem Step.unentered?_accident {step : Step} {fault : Fault} {cause : Failure}
    (hcause : step.accident fault = .ok cause) : cause.unentered? = none := by
  unfold accident at hcause
  split at hcause <;> obtain ⟨words, -, rfl⟩ := Except.map_eq_ok.1 hcause <;> rfl

/-- A step that rejects a result fails for this. -/
theorem Step.unentered?_rejection (step : Step) (operation : String) (result : Fields) :
    (step.rejection operation result).unentered? = none := by
  unfold rejection
  split <;> rfl

/-- What a node does never fails for want of a node or of a step. -/
theorem Node.unentered?_of_fail {node : Node} {key : String} {context : Context}
    {answer : Option Answer} {effect : Effect} {cause : Failure}
    (heffect : node.effect? key context answer = some effect)
    (hfail : effect.verdict = .fail cause) : cause.unentered? = none := by
  cases node with
  | stranger other =>
    cases heffect
    exact Stranger.unentered?_failure (Verdict.ofFailure_eq_fail.1 hfail)
  | step own =>
    cases Step.does_of_effect? heffect with
    | meets =>
      cases hfail
      rfl
    | @settles operation _ names onSuccess onFailure _ given =>
      cases given with
      | fault fault => exact Step.unentered?_accident (Verdict.ofFailure_eq_fail.1 hfail)
      | value v =>
        cases v with
        | object result =>
          rcases own.verdict_settleResult operation names onSuccess onFailure context result with
            hfirst | ⟨key, -, -, hkey⟩ | ⟨-, hrejected⟩
          · exact absurd (hfirst.symm.trans hfail) (Verdict.toFirst_ne_fail _ _)
          · cases hkey.symm.trans hfail
          · cases hrejected.symm.trans hfail
            exact Step.unentered?_rejection own operation result
        | _ =>
          cases hfail
          rfl
    | decides => exact absurd hfail (Verdict.toFirst_ne_fail _ _)
    | responds => exact absurd hfail (Verdict.toFirst_ne_fail _ _)

/-- The key before which a run ended. -/
def Ending.unentered? : Ending → Option String
  | .failed _ cause => cause.unentered?
  | _ => none

/-- The keys that a course comes to: those of its visits, and the one that it
came to without entering it. -/
def Course.reached {σ : Type} (course : Course σ) : List String :=
  course.visits.map Visit.key ++ course.ending.unentered?.toList

/-- The keys that a report shows the run to have come to. -/
def Report.reached (report : Report) : List String :=
  report.entered ++ (report.failure.bind fun failure => failure.2.unentered?).toList

/-- The report of a course names the keys that the course comes to. -/
theorem Course.reached_eq {σ : Type} {course : Course σ} {context : Context} {report : Report}
    (hreport : course.report? ⟨context, 0, []⟩ = some report) :
    report.reached = course.reached := by
  have hentered := Course.entered_eq hreport
  have hfailure : (report.failure.bind fun failure => failure.2.unentered?) =
      course.ending.unentered? := by
    unfold Course.report? at hreport
    cases hending : course.ending <;> simp only [hending] at hreport <;> cases hreport <;> rfl
  rw [Report.reached, Course.reached, hentered, hfailure]

/-- A course comes to the key that it starts from first. -/
theorem Graph.head?_reached {σ : Type} (graph : Graph) (handler : Handler σ)
    (budget left : Nat) (key : String) (context : Context) (state : σ) :
    (graph.course handler budget left key context state).reached.head? = some key := by
  fun_cases Graph.course graph handler budget left key context state <;> rfl

/-! ## Closed flows -/

/-- A flow without a way out: its start and its successors exist, and its
operations are known.  It may well have cycles. -/
structure Flow.Closed (flow : Flow) (known : List String) : Prop where
  starts : flow.steps.has flow.initialStep
  noneMissing : ∀ key target, .successorMissing key target ∉ flow.findings (some known)
  noneUnknown : ∀ key operation, .operationUnknown key operation ∉ flow.findings (some known)

/-- The steps of a flow without findings of an unknown operation run known
operations only. -/
theorem Flow.known_of_operation? {flow : Flow} {known : List String} {key name : String}
    {step : Step}
    (hfindings : ∀ key operation, .operationUnknown key operation ∉ flow.findings (some known))
    (hstep : flow.steps.at? key = some step) (hname : step.operation? = some name) :
    name ∈ known := by
  by_contra hunknown
  apply hfindings key name
  have hfinding : Finding.operationUnknown key name ∈ step.operationFindings (some known) key := by
    simp [Step.operationFindings, hname, hunknown]
  refine List.mem_append_left _ (List.mem_append_right _ ?_)
  exact List.mem_flatMap.2 ⟨(key, step), Table.mem_of_at?_eq_some hstep,
    List.mem_append_right _ hfinding⟩

/-- Where an effect of a node of a flow leads is a successor in the flow. -/
theorem Flow.leads_of_effect {flow : Flow} {key target : String} {node : Node}
    {context : Context} {answer : Option Answer} {effect : Effect}
    (hnode : flow.graph.nodes.at? key = some node)
    (heffect : node.effect? key context answer = some effect)
    (hgoTo : effect.verdict = .goTo target) : flow.Leads key target := by
  rw [flow.at?_graph] at hnode
  obtain ⟨step, hstep, rfl⟩ := Option.map_eq_some_iff.1 hnode
  simp only [Leads, successors, hstep]
  exact Step.mem_successors_of_effect heffect hgoTo

/-- An operation whose name is among the names is found. -/
theorem Operations.find?_of_mem_names {σ : Type} {operations : Operations σ} {name : String}
    (hname : name ∈ operations.names) : ∃ operation, operations.find? name = some operation := by
  obtain ⟨operation, hmem, rfl⟩ := List.mem_map.1 hname
  exact Option.isSome_iff_exists.1
    (List.find?_isSome.2 ⟨operation, hmem, beq_self_eq_true operation.name⟩)

/-! ## The run -/

/-- A course keeps to a flow: it comes from step to successor, and never to a
key without a step. -/
structure Course.KeepsTo {σ : Type} (course : Course σ) (flow : Flow) : Prop where
  has : ∀ reached ∈ course.reached, flow.steps.has reached
  chain : course.reached.IsChain flow.Leads
  found : ∀ here missing, course.ending ≠ .failed here (.stepNotFound missing)

namespace Course.KeepsTo

variable {σ : Type} {course : Course σ} {flow : Flow} {target : String}

/-- A course that enters one node of the flow keeps to it, however it ends
there. -/
theorem single (visit : Visit) (ending : Ending) (state : σ) (hhas : flow.steps.has visit.key)
    (hending : ending.unentered? = none) :
    KeepsTo (⟨[visit], ending, state⟩ : Course σ) flow := by
  have hreached : (⟨[visit], ending, state⟩ : Course σ).reached = [visit.key] := by
    simp [Course.reached, hending]
  refine ⟨by simpa [hreached] using hhas, by simp [hreached], ?_⟩
  rintro here missing rfl
  cases hending

/-- A course that keeps to the flow does so with a visit before it that leads
to it. -/
theorem preceded (hrest : course.KeepsTo flow) (hhead : course.reached.head? = some target)
    (visit : Visit) (hhas : flow.steps.has visit.key) (hleads : flow.Leads visit.key target) :
    (course.preceded visit).KeepsTo flow := by
  have hreached : (course.preceded visit).reached = visit.key :: course.reached := rfl
  refine ⟨?_, ?_, hrest.found⟩
  · rw [hreached]
    exact List.forall_mem_cons.2 ⟨hhas, hrest.has⟩
  · rw [hreached, List.isChain_cons, hhead]
    exact ⟨by rintro next ⟨⟩; exact hleads, hrest.chain⟩

end Course.KeepsTo

variable {σ : Type}

/-- A course of a closed flow from one of its keys keeps to the flow. -/
theorem Graph.course_keepsTo {flow : Flow} {known : List String} (hclosed : flow.Closed known)
    (handler : Handler σ) (budget left : Nat) (key : String) (context : Context) (state : σ)
    (hhas : flow.steps.has key) :
    (flow.graph.course handler budget left key context state).KeepsTo flow := by
  fun_induction Graph.course flow.graph handler budget left key context state with
  | case1 left key context state hnode =>
    rw [flow.at?_graph, Option.map_eq_none_iff] at hnode
    simp [Table.has, hnode] at hhas
  | case2 key context state node hnode =>
    have hreached : (⟨[], .failed key (.budgetExhausted budget key), state⟩ : Course σ).reached =
        [key] := rfl
    exact ⟨by simpa [hreached] using hhas, by simp [hreached], by simp⟩
  | case3 key context state node hnode left consulted visit heffect =>
    exact .single visit .unanswered consulted.2 hhas rfl
  | case4 key context state node hnode left consulted visit effect heffect target hverdict ih =>
    have hleads := Flow.leads_of_effect hnode heffect hverdict
    have hrest := ih (Flow.has_of_leads hclosed.noneMissing hleads)
    exact hrest.preceded (flow.graph.head?_reached ..) visit hhas hleads
  | case5 key context state node hnode left consulted visit effect heffect hverdict =>
    exact .single visit .finished consulted.2 hhas rfl
  | case6 key context state node hnode left consulted visit effect heffect cause hverdict =>
    exact .single visit (.failed key cause) consulted.2 hhas
      (Node.unentered?_of_fail heffect hverdict)
  | case7 key context state node hnode left consulted visit effect heffect obstacle hverdict =>
    exact .single visit (.brokenOff obstacle) consulted.2 hhas rfl

/-- A call is of the operation of its step. -/
theorem Step.operation_of_call {context : Context} {operation : String} {args : Fields}
    {call : Call} (hcall : Step.call context operation args = .ok call) :
    call.operation = operation := by
  obtain ⟨filled, -, rfl⟩ := Except.map_eq_ok.1 hcall
  rfl

/-- The calls of a course of a flow without unknown operations are of known
operations. -/
theorem Follows.calls_known {flow : Flow} {known : List String} {handler : Handler σ}
    (hclosed : flow.Closed known) {key : String} {context : Context} {state : σ}
    {visits : List Visit} (hfollows : Follows flow.graph handler key context state visits)
    {call : Call} (hcall : call ∈ visits.filterMap Visit.call?) : call.operation ∈ known := by
  obtain ⟨visit, hmem, hvisit⟩ := List.mem_filterMap.1 hcall
  obtain ⟨before, later, rfl⟩ := List.append_of_mem hmem
  have hnode := hfollows.split.2.1.node
  rw [flow.at?_graph] at hnode
  obtain ⟨step, hstep, hown⟩ := Option.map_eq_some_iff.1 hnode
  apply Flow.known_of_operation? hclosed.noneUnknown hstep
  obtain ⟨id, name, next, action⟩ := step
  simp only [Visit.call?, Node.call?, ← hown] at hvisit
  cases action with
  | operation operation args names onSuccess onFailure =>
    rw [Step.operation_of_call (Except.toOption_eq_some.1 hvisit)]
    rfl
  | branch guard onTrue onFalse => cases hvisit
  | response template => cases hvisit

/-- **Closed flows keep their runs inside.**  Let the start and the successors
of a flow exist and its operations be known.  In any context, with any budget
and whatever the operations do, a run of it comes to keys of the flow only,
each of them a successor of the one before, and calls operations of the table
only; its report shows these keys and no failure for want of a step. -/
theorem run_stays_inside (flow : Flow) (operations : Operations σ) (budget : Nat)
    (context : Context) (state : σ) (hclosed : flow.Closed operations.names) :
    let played := (flow.graph.run budget flow.initialStep context).play operations.handler state
    let course := flow.graph.courseOf operations.handler budget flow.initialStep context state
    course.reached.head? = some flow.initialStep ∧
    (∀ key ∈ course.reached, flow.steps.has key) ∧
    course.reached.IsChain flow.Leads ∧
    (∀ call ∈ played.calls, ∃ operation, operations.find? call.operation = some operation) ∧
    ∀ report, played.result = some (.ok report) →
      report.reached = course.reached ∧
        ∀ here missing, report.failure ≠ some (here, .stepNotFound missing) := by
  intro played course
  have hplayed : played = course.played ⟨context, 0, []⟩ :=
    flow.graph.play_run operations.handler budget flow.initialStep context state
  have hkeeps : course.KeepsTo flow :=
    Graph.course_keepsTo hclosed operations.handler budget budget flow.initialStep context state
      hclosed.starts
  refine ⟨flow.graph.head?_reached .., hkeeps.has, hkeeps.chain, fun call hcall => ?_,
    fun report hreport => ?_⟩
  · rw [hplayed] at hcall
    have hfollows := flow.graph.course_follows operations.handler budget budget flow.initialStep
      context state
    exact Operations.find?_of_mem_names (hfollows.calls_known hclosed hcall)
  · have hcourse := Graph.report?_of_play hreport
    exact ⟨Course.reached_eq hcourse, fun here missing hfailure =>
      hkeeps.found here missing (Course.ending_of_failure hcourse hfailure)⟩

/-- A flow that asks again for ever, under a key that is not the id of its
step: the budget stops it at a key of the flow. -/
theorem run_stays_inside_cycle :
    let ask : Step := ⟨"question", "ask", some "again", .operation "ask" [] [] none (some "ask")⟩
    let again : Step := ⟨"again", "again", some "ask", .response "once more"⟩
    let flow : Flow := ⟨"f", "f", "", .none, "ask", [("ask", ask), ("again", again)]⟩
    let agree : Operation Unit := ⟨"ask", "", .null, fun _ => .valid fun _ state =>
      (.now (.success []), state)⟩
    let operations : Operations Unit := ⟨[agree], by simp⟩
    let start : Context := ⟨"hello", .number 1, "", "f", "f", none, none, []⟩
    ∃ report, ((flow.graph.run 3 "ask" start).play operations.handler ()).result =
        some (.ok report) ∧
      report.reached = ["ask", "again", "ask", "again"] ∧
      ∀ key ∈ report.reached, flow.steps.has key := by
  intro ask again flow agree operations start
  have hfindings : flow.findings (some operations.names) =
      [.keyMismatch "ask" "question", .noKeywords] := by rfl
  have hclosed : flow.Closed operations.names :=
    ⟨rfl, by simp [hfindings], by simp [hfindings]⟩
  obtain ⟨-, hhas, -, -, hreports⟩ := run_stays_inside flow operations 3 start () hclosed
  have hreached := (hreports _ rfl).1
  exact ⟨_, rfl, rfl, by rw [hreached]; exact hhas⟩

end FlowDesk
