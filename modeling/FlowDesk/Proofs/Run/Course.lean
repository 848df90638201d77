/-
# The course of a run

A walk describes a run without its surroundings.  Played against one handler
it takes a definite course: it enters nodes one after the other, each with the
context that the one before it left behind, until something ends it.  This
module writes that course down as a list of visits and proves that playing the
walk shows exactly what the course says: its calls, its report and the state
of the handler (`play_walk`).

No second semantics is introduced.  Whatever is said about a course is said
about the walk, and the statements about runs in the other modules are proved
by induction over visits.
-/

import FlowDesk.Proofs.Value.Writable
import FlowDesk.Run.Walk

namespace FlowDesk

/-- The obstacle that something met, if it met one. -/
def Except.obstacle? {α : Type} : Except Obstacle α → Option Obstacle
  | .ok _ => none
  | .error obstacle => some obstacle

/-- A step calls its operation with fields, for the caller of the context. -/
theorem Step.call_eq_ok {context : Context} {operation : String} {args : Fields} {call : Call}
    (hcall : Step.call context operation args = .ok call) :
    ∃ fields, call = ⟨operation, .object fields, context.caller.value⟩ := by
  obtain ⟨filled, hfilled, rfl⟩ := Except.map_eq_ok.1 hcall
  obtain ⟨fields, -, rfl⟩ := Except.map_eq_ok.1 hfilled
  exact ⟨fields, rfl⟩

namespace Node

variable {σ : Type}

/-- The call that a node makes in a context.  Only operation steps make one, and only
if their arguments can be filled in. -/
def call? (node : Node) (context : Context) : Option Call :=
  match node with
  | .stranger _ => none
  | .step own =>
    match own.action with
    | .operation operation args .. => (Step.call context operation args).toOption
    | _ => none

/-- What a node under a key leaves behind, given the answer to its call.  A call
without an answer leaves nothing behind. -/
def effect? (node : Node) (key : String) (context : Context) (answer : Option Answer) :
    Option Effect :=
  match node with
  | .stranger other => some ⟨context, [], .ofFailure (other.failure key)⟩
  | .step own =>
    match own.action with
    | .operation operation args bindings onSuccess onFailure =>
      match Step.call context operation args with
      | .error obstacle => some (own.meet (.unwritten obstacle) context)
      | .ok _ => answer.map (own.settle operation bindings onSuccess onFailure context)
    | .branch guard onTrue onFalse => some (own.decide guard onTrue onFalse context)
    | .response template => some (own.respond template context)

/-- What keeps a step from its work in a context: it has to fill in arguments, to ask a
guard or to render a response, and meets an obstacle. -/
def obstacle? (node : Node) (context : Context) : Option Obstacle :=
  match node with
  | .stranger _ => none
  | .step own =>
    match own.action with
    | .operation operation args .. => Except.obstacle? (Step.call context operation args)
    | .branch guard _ _ => Except.obstacle? (guard.holds context)
    | .response template => Except.obstacle? (Step.response template context)

/-- Ask a handler for the answer that a node needs.  A node without a call
leaves the handler alone. -/
def consult (node : Node) (handler : Handler σ) (context : Context) (state : σ) :
    Option Answer × σ :=
  match node.call? context with
  | none => (none, state)
  | some call => ((handler call state).1.answer?, (handler call state).2)

end Node

/-- What a step does in a context, given the answer to its call: it fails with the
obstacle that it meets, or it does what a step of its kind does. -/
inductive Step.Does (own : Step) (context : Context) (answer : Option Answer) : Effect → Prop
  | meets {obstacle : Obstacle} (hobstacle : (Node.step own).obstacle? context = some obstacle) :
    Does own context answer ⟨context, [], .fail (.stepError own.name obstacle.message)⟩
  | settles {operation : String} {args : Fields} {names : List String}
    {onSuccess onFailure : Option String} {call : Call} {given : Answer}
    (haction : own.action = .operation operation args names onSuccess onFailure)
    (hcall : Step.call context operation args = .ok call) (hanswer : answer = some given) :
    Does own context answer (own.settle operation names onSuccess onFailure context given)
  | decides {guard : Guard} {onTrue onFalse : Option String} {result : Bool}
    (haction : own.action = .branch guard onTrue onFalse)
    (hholds : guard.holds context = .ok result) :
    Does own context answer
      ⟨context, [.branchEvaluated own.id guard.field guard.operator result],
        .toFirst (if result then [onTrue, own.next] else [onFalse])⟩
  | responds {template : String} {response : Option String}
    (haction : own.action = .response template)
    (hresponse : Step.response template context = .ok response) :
    Does own context answer
      ⟨{ context with response := response },
        [.responseRendered own.id (response.getD "").length], .toFirst [own.next]⟩

/-- What a step leaves behind is what it does. -/
theorem Step.does_of_effect? {own : Step} {key : String} {context : Context}
    {answer : Option Answer} {effect : Effect}
    (heffect : (Node.step own).effect? key context answer = some effect) :
    own.Does context answer effect := by
  obtain ⟨id, name, next, action⟩ := own
  cases action with
  | operation operation args names onSuccess onFailure =>
    simp only [Node.effect?] at heffect
    split at heffect
    · rename_i obstacle hcall
      cases heffect
      exact .meets (by simp only [Node.obstacle?, hcall, Except.obstacle?])
    · rename_i call hcall
      obtain ⟨given, hanswer, rfl⟩ := Option.map_eq_some_iff.1 heffect
      exact .settles rfl hcall hanswer
  | branch guard onTrue onFalse =>
    simp only [Node.effect?, Step.decide] at heffect
    split at heffect
    · rename_i obstacle hholds
      cases heffect
      exact .meets (by simp only [Node.obstacle?, hholds, Except.obstacle?])
    · rename_i result hholds
      cases heffect
      exact .decides rfl hholds
  | response template =>
    simp only [Node.effect?, Step.respond] at heffect
    split at heffect
    · rename_i obstacle hresponse
      cases heffect
      exact .meets (by simp only [Node.obstacle?, hresponse, Except.obstacle?])
    · rename_i response hresponse
      cases heffect
      exact .responds rfl hresponse

/-- A step that meets an obstacle makes no call and does nothing but fail. -/
theorem Step.effect?_of_obstacle {own : Step} (key : String) {context : Context}
    (answer : Option Answer) {obstacle : Obstacle}
    (hobstacle : (Node.step own).obstacle? context = some obstacle) :
    (Node.step own).call? context = none ∧
      (Node.step own).effect? key context answer =
        some ⟨context, [], .fail (.stepError own.name obstacle.message)⟩ := by
  obtain ⟨id, name, next, action⟩ := own
  cases action with
  | operation operation args bindings onSuccess onFailure =>
    simp only [Node.obstacle?, Node.call?, Node.effect?] at hobstacle ⊢
    cases hcall : Step.call context operation args with
    | ok call => simp [hcall, Except.obstacle?] at hobstacle
    | error met =>
      rw [hcall] at hobstacle
      cases hobstacle
      exact ⟨rfl, rfl⟩
  | branch guard onTrue onFalse =>
    simp only [Node.obstacle?, Node.effect?, Step.decide] at hobstacle ⊢
    cases hholds : guard.holds context with
    | ok result => simp [hholds, Except.obstacle?] at hobstacle
    | error met =>
      rw [hholds] at hobstacle
      cases hobstacle
      exact ⟨rfl, rfl⟩
  | response template =>
    simp only [Node.obstacle?, Node.effect?, Step.respond] at hobstacle ⊢
    cases hresponse : Step.response template context with
    | ok response => simp [hresponse, Except.obstacle?] at hobstacle
    | error met =>
      rw [hresponse] at hobstacle
      cases hobstacle
      exact ⟨rfl, rfl⟩

/-- A node that a run has entered: its key, the context at that moment, and
the answer to its call, if it made one and an answer came. -/
structure Visit where
  key : String
  node : Node
  context : Context
  answer : Option Answer

namespace Visit

/-- The call that was made. -/
def call? (visit : Visit) : Option Call := visit.node.call? visit.context

/-- What kept the node from its work. -/
def obstacle? (visit : Visit) : Option Obstacle := visit.node.obstacle? visit.context

/-- What the node left behind. -/
def effect? (visit : Visit) : Option Effect :=
  visit.node.effect? visit.key visit.context visit.answer

/-- The key that the run went on to. -/
def leads? (visit : Visit) : Option String :=
  match visit.effect?.map Effect.verdict with
  | some (.goTo target) => some target
  | _ => none

/-- The context after the visit. -/
def after (visit : Visit) : Context :=
  match visit.effect? with
  | some effect => effect.context
  | none => visit.context

/-- The state of the handler after the visit. -/
def stateAfter {σ : Type} (visit : Visit) (handler : Handler σ) (state : σ) : σ :=
  (visit.node.consult handler visit.context state).2

/-- The events of the visit, its start and the way onward included. -/
def events (visit : Visit) : List Event :=
  .stepStarted visit.key visit.node.type ::
    ((visit.effect?.map Effect.events).getD [] ++
      (visit.leads?.map (Event.transition visit.key)).toList)

end Visit

/-- A visit that meets an obstacle makes no call, leaves the context as it found it and
leads nowhere. -/
theorem Visit.of_obstacle {visit : Visit} {obstacle : Obstacle}
    (hobstacle : visit.obstacle? = some obstacle) :
    visit.call? = none ∧ visit.after = visit.context ∧ visit.leads? = none := by
  obtain ⟨key, node, context, answer⟩ := visit
  cases node with
  | stranger other => cases hobstacle
  | step own =>
    obtain ⟨hcall, heffect⟩ := Step.effect?_of_obstacle key answer hobstacle
    exact ⟨hcall, by simp [after, effect?, heffect], by simp [leads?, effect?, heffect]⟩

/-- A visit agrees with a graph and a handler: its node is the one under its
key, and its answer the one that the handler gives. -/
structure Visit.Agrees {σ : Type} (visit : Visit) (graph : Graph) (handler : Handler σ)
    (state : σ) : Prop where
  node : graph.nodes.at? visit.key = some visit.node
  answer : visit.answer = (visit.node.consult handler visit.context state).1

/-- Some visits follow each other from a key on: each agrees with the graph
and the handler, and leads to the next one with the context and the state that
it leaves behind. -/
inductive Follows {σ : Type} (graph : Graph) (handler : Handler σ) :
    String → Context → σ → List Visit → Prop
  | nil (key : String) (context : Context) (state : σ) : Follows graph handler key context state []
  | last {visit : Visit} {state : σ} (hagrees : visit.Agrees graph handler state) :
    Follows graph handler visit.key visit.context state [visit]
  | cons {visit : Visit} {state : σ} {target : String} {rest : List Visit}
    (hagrees : visit.Agrees graph handler state) (hleads : visit.leads? = some target)
    (hrest : Follows graph handler target visit.after (visit.stateAfter handler state) rest) :
    Follows graph handler visit.key visit.context state (visit :: rest)

/-- How a run ends: at a node without a successor, by a failure at a key, by one that
has no words, or with a call that is never answered. -/
inductive Ending where
  | finished
  | failed (key : String) (cause : Failure)
  | brokenOff (obstacle : Obstacle)
  | unanswered

/-- The visits of a run, how it ends, and the state of the handler then. -/
structure Course (σ : Type) where
  visits : List Visit
  ending : Ending
  state : σ

/-- The context after some visits. -/
def contextAfter (visits : List Visit) (context : Context) : Context :=
  visits.foldl (fun _ visit => visit.after) context

@[simp]
theorem contextAfter_nil (context : Context) : contextAfter [] context = context := rfl

@[simp]
theorem contextAfter_cons (visit : Visit) (rest : List Visit) (context : Context) :
    contextAfter (visit :: rest) context = contextAfter rest visit.after := rfl

@[simp]
theorem contextAfter_append (first second : List Visit) (context : Context) :
    contextAfter (first ++ second) context = contextAfter second (contextAfter first context) :=
  List.foldl_append

/-- The state of a handler after some visits. -/
def stateAfter {σ : Type} (handler : Handler σ) (visits : List Visit) (state : σ) : σ :=
  visits.foldl (fun sofar visit => visit.stateAfter handler sofar) state

/-- A visit in the midst of others agrees with the graph and the handler, and
stands in the context that the visits before it leave behind. -/
theorem Follows.split {σ : Type} {graph : Graph} {handler : Handler σ} {key : String}
    {context : Context} {state : σ} {before later : List Visit} {visit : Visit}
    (hfollows : Follows graph handler key context state (before ++ visit :: later)) :
    Follows graph handler key context state before ∧
      visit.Agrees graph handler (FlowDesk.stateAfter handler before state) ∧
      visit.context = contextAfter before context := by
  induction before generalizing key context state with
  | nil =>
    cases hfollows with
    | last hagrees => exact ⟨.nil _ _ _, hagrees, rfl⟩
    | cons hagrees hleads hrest => exact ⟨.nil _ _ _, hagrees, rfl⟩
  | cons first before ih =>
    generalize hvisits : first :: before ++ visit :: later = visits at hfollows
    cases hfollows with
    | nil => cases hvisits
    | last hagrees => simp at hvisits
    | cons hagrees hleads hrest =>
      obtain ⟨rfl, rfl⟩ := List.cons.inj hvisits
      obtain ⟨hbefore, hvisit, hcontext⟩ := ih hrest
      exact ⟨.cons hagrees hleads hbefore, hvisit, hcontext⟩

namespace Course

variable {σ : Type}

/-- A course with a visit before it. -/
def preceded (course : Course σ) (visit : Visit) : Course σ :=
  { course with visits := visit :: course.visits }

/-- The calls, in order. -/
def calls (course : Course σ) : List Call := course.visits.filterMap Visit.call?

/-- The events of all visits, in order. -/
def events (course : Course σ) : List Event := course.visits.flatMap Visit.events

/-- The report of a run that has come this far and then takes the course.
There is none when the run breaks off or a call is never answered. -/
def report? (course : Course σ) (journey : Journey) : Option Report :=
  let context := contextAfter course.visits journey.context
  let executed := journey.executed + course.visits.length
  let trace := journey.trace ++ course.events
  match course.ending with
  | .finished => some ⟨context, none, executed, trace⟩
  | .failed key cause =>
    some ⟨context, some (key, cause), executed, trace ++ [.stepFailed key cause.message]⟩
  | .brokenOff _ => none
  | .unanswered => none

/-- What a run comes to that has come this far and then takes the course. -/
def outcome? (course : Course σ) (journey : Journey) : Option Outcome :=
  match course.ending with
  | .brokenOff obstacle => some (.error obstacle)
  | _ => (course.report? journey).map .ok

/-- A run comes to a report exactly when its course has one. -/
theorem outcome?_eq_ok {course : Course σ} {journey : Journey} {report : Report} :
    course.outcome? journey = some (.ok report) ↔ course.report? journey = some report := by
  unfold outcome? report?
  cases course.ending <;> simp

/-- A report tells where the visits of its run have led. -/
theorem report?_eq_some {course : Course σ} {journey : Journey} {report : Report}
    (hreport : course.report? journey = some report) :
    report.context = contextAfter course.visits journey.context ∧
      report.executed = journey.executed + course.visits.length := by
  unfold report? at hreport
  cases hending : course.ending <;> simp only [hending] at hreport <;> cases hreport <;>
    exact ⟨rfl, rfl⟩

/-- A report of a failure comes from a course that fails. -/
theorem ending_of_failure {course : Course σ} {journey : Journey} {report : Report}
    {key : String} {cause : Failure} (hreport : course.report? journey = some report)
    (hfailure : report.failure = some (key, cause)) : course.ending = .failed key cause := by
  unfold report? at hreport
  cases hcourse : course.ending <;> simp only [hcourse] at hreport <;> cases hreport <;>
    cases hfailure
  rfl

/-- What playing a run shows that takes this course. -/
def played (course : Course σ) (journey : Journey) : Played σ Outcome :=
  ⟨course.calls, course.outcome? journey, course.state⟩

@[simp]
theorem played_finished (journey : Journey) (state : σ) :
    (⟨[], .finished, state⟩ : Course σ).played journey =
      ⟨[], some (.ok journey.finish), state⟩ := by
  simp [played, calls, outcome?, report?, events, Journey.finish]

@[simp]
theorem played_failed (journey : Journey) (key : String) (cause : Failure) (state : σ) :
    (⟨[], .failed key cause, state⟩ : Course σ).played journey =
      ⟨[], some (.ok (journey.fail key cause)), state⟩ := by
  simp [played, calls, outcome?, report?, events, Journey.fail]

@[simp]
theorem played_brokenOff (journey : Journey) (obstacle : Obstacle) (state : σ) :
    (⟨[], .brokenOff obstacle, state⟩ : Course σ).played journey =
      ⟨[], some (.error obstacle), state⟩ := rfl

/-- A visit before a course may as well count as part of the way so far. -/
theorem played_preceded (course : Course σ) (visit : Visit) (journey next : Journey)
    (hcontext : next.context = visit.after) (hexecuted : next.executed = journey.executed + 1)
    (htrace : next.trace = journey.trace ++ visit.events) :
    (course.preceded visit).played journey =
      { course.played next with calls := visit.call?.toList ++ (course.played next).calls } := by
  have hcalls : (course.preceded visit).calls = visit.call?.toList ++ course.calls := by
    cases hcall : visit.call? <;> simp [calls, preceded, hcall]
  have houtcome : (course.preceded visit).outcome? journey = course.outcome? next := by
    simp [outcome?, report?, preceded, events, hcontext, hexecuted, htrace, Nat.add_assoc,
      Nat.add_comm 1]
  rw [played, hcalls, houtcome]
  rfl

end Course

/-! ## The nodes entered -/

/-- The key of the node whose entry an event records. -/
def Event.entered? : Event → Option String
  | .stepStarted step _ => some step
  | _ => none

/-- The keys of the nodes that a run entered, in order. -/
def Report.entered (report : Report) : List String := report.trace.filterMap Event.entered?

/-- What a node does is no entry of another one. -/
theorem Node.entered_effect {node : Node} {key : String} {context : Context}
    {answer : Option Answer} {effect : Effect}
    (heffect : node.effect? key context answer = some effect) :
    effect.events.filterMap Event.entered? = [] := by
  cases node with
  | stranger other =>
    cases heffect
    rfl
  | step own =>
    cases Step.does_of_effect? heffect with
    | settles =>
      unfold Step.settle
      split <;> rfl
    | _ => rfl

/-- A visit enters one node. -/
theorem Visit.entered_events (visit : Visit) :
    visit.events.filterMap Event.entered? = [visit.key] := by
  have honward : (visit.leads?.map (Event.transition visit.key)).toList.filterMap
      Event.entered? = [] := by
    cases visit.leads? <;> rfl
  cases heffect : visit.effect? with
  | none => simp [events, heffect, honward, Event.entered?]
  | some effect =>
    simp [events, heffect, honward, Event.entered?, Node.entered_effect heffect]

/-- The nodes that a report names are those of the visits. -/
theorem Course.entered_eq {σ : Type} {course : Course σ} {context : Context} {report : Report}
    (hreport : course.report? ⟨context, 0, []⟩ = some report) :
    report.entered = course.visits.map Visit.key := by
  have hevents : course.events.filterMap Event.entered? = course.visits.map Visit.key := by
    rw [events]
    induction course.visits with
    | nil => rfl
    | cons visit rest ih => simp [Visit.entered_events, ih]
  unfold Course.report? at hreport
  cases hending : course.ending <;> simp only [hending] at hreport <;> cases hreport <;>
    simp [Report.entered, Journey.trace, hevents, Event.entered?]

namespace Graph

variable {σ : Type}

/-- The course of a walk from a key against a handler, with `left` steps left
of a budget. -/
def course (graph : Graph) (handler : Handler σ) (budget : Nat) :
    Nat → String → Context → σ → Course σ
  | left, key, context, state =>
    match graph.nodes.at? key with
    | none => ⟨[], .failed key (.stepNotFound key), state⟩
    | some node =>
      match left with
      | 0 => ⟨[], .failed key (.budgetExhausted budget key), state⟩
      | left + 1 =>
        let consulted := node.consult handler context state
        let visit : Visit := ⟨key, node, context, consulted.1⟩
        match visit.effect? with
        | none => ⟨[visit], .unanswered, consulted.2⟩
        | some effect =>
          match effect.verdict with
          | .goTo target =>
            (graph.course handler budget left target effect.context consulted.2).preceded visit
          | .stop => ⟨[visit], .finished, consulted.2⟩
          | .fail cause => ⟨[visit], .failed key cause, consulted.2⟩
          | .breakOff obstacle => ⟨[visit], .brokenOff obstacle, consulted.2⟩

/-- The course at a node that leaves something behind ends there or goes on, as that
says. -/
theorem course_of_effect? {graph : Graph} {handler : Handler σ} {key : String} {node : Node}
    {context : Context} {state : σ} {effect : Effect} (hnode : graph.nodes.at? key = some node)
    (heffect : node.effect? key context (node.consult handler context state).1 = some effect)
    (budget left : Nat) :
    graph.course handler budget (left + 1) key context state =
      let consulted := node.consult handler context state
      let visit : Visit := ⟨key, node, context, consulted.1⟩
      match effect.verdict with
      | .goTo target =>
        (graph.course handler budget left target effect.context consulted.2).preceded visit
      | .stop => ⟨[visit], .finished, consulted.2⟩
      | .fail cause => ⟨[visit], .failed key cause, consulted.2⟩
      | .breakOff obstacle => ⟨[visit], .brokenOff obstacle, consulted.2⟩ := by
  rw [course]
  simp only [hnode, Visit.effect?, heffect]

/-- The course of a run from a start key. -/
def courseOf (graph : Graph) (handler : Handler σ) (budget : Nat) (start : String)
    (context : Context) (state : σ) : Course σ :=
  graph.course handler budget budget start context state

/-- How a walk goes on after a node that it entered. -/
def proceed (graph : Graph) (budget left : Nat) (key : String) (entered : Journey)
    (effect : Effect) : Progress Outcome :=
  match effect.verdict with
  | .goTo target => graph.walk budget left target ((entered.after effect).moveTo key target)
  | .stop => .done (.ok (entered.after effect).finish)
  | .fail cause => .done (.ok ((entered.after effect).fail key cause))
  | .breakOff obstacle => .done (.error obstacle)

/-- Playing a walk at a node consults the handler as the node needs, and then
plays on with what the node leaves behind. -/
theorem play_walk_succ (graph : Graph) (handler : Handler σ) (budget left : Nat) (key : String)
    (journey : Journey) (state : σ) (node : Node) (hnode : graph.nodes.at? key = some node) :
    (graph.walk budget (left + 1) key journey).play handler state =
      let consulted := node.consult handler journey.context state
      let calls := (node.call? journey.context).toList
      match node.effect? key journey.context consulted.1 with
      | none => ⟨calls, none, consulted.2⟩
      | some effect =>
        let rest :=
          (graph.proceed budget left key (journey.enter key node) effect).play handler consulted.2
        { rest with calls := calls ++ rest.calls } := by
  rw [walk, hnode]
  cases node with
  | stranger other =>
    simp only [Node.consult, Node.call?, Node.effect?, proceed, Journey.enter]
    cases Verdict.ofFailure (other.failure key) <;> rfl
  | step own =>
    obtain ⟨id, name, next, action⟩ := own
    cases action with
    | branch guard onTrue onFalse =>
      simp only [Node.consult, Node.call?, Node.effect?, proceed, Journey.enter]
      generalize Step.decide _ guard onTrue onFalse journey.context = effect
      cases effect.verdict <;> rfl
    | response template =>
      simp only [Node.consult, Node.call?, Node.effect?, proceed, Journey.enter]
      generalize Step.respond _ template journey.context = effect
      cases effect.verdict <;> rfl
    | operation operation args bindings onSuccess onFailure =>
      simp only [Node.consult, Node.call?, Node.effect?, proceed, Journey.enter]
      cases Step.call journey.context operation args with
      | error obstacle =>
        simp only [Except.toOption]
        generalize Step.meet _ (.unwritten obstacle) journey.context = effect
        cases effect.verdict <;> rfl
      | ok call =>
        simp only [Except.toOption, Progress.play]
        generalize handler call state = consulted
        obtain ⟨delivery, next⟩ := consulted
        cases delivery <;> rfl

/-- Playing a walk shows its course: the calls of the visits, the report that
the visits lead to, and the state of the handler at the end. -/
theorem play_walk (graph : Graph) (handler : Handler σ) (budget left : Nat) (key : String)
    (journey : Journey) (state : σ) :
    (graph.walk budget left key journey).play handler state =
      (graph.course handler budget left key journey.context state).played journey := by
  induction left generalizing key journey state with
  | zero =>
    rw [walk, course]
    cases graph.nodes.at? key <;> simp [Progress.play]
  | succ left ih =>
    cases hnode : graph.nodes.at? key with
    | none =>
      rw [walk, course]
      simp [hnode, Progress.play]
    | some node =>
      rw [play_walk_succ graph handler budget left key journey state node hnode, course]
      simp only [hnode]
      generalize node.consult handler journey.context state = consulted
      obtain ⟨answer, next⟩ := consulted
      cases heffect : node.effect? key journey.context answer with
      | none =>
        simp only [Visit.effect?, heffect]
        cases hcall : node.call? journey.context <;>
          simp [Course.played, Course.calls, Course.outcome?, Course.report?, Visit.call?, hcall]
      | some effect =>
        obtain ⟨context, events, verdict⟩ := effect
        let visit : Visit := ⟨key, node, journey.context, answer⟩
        let reached := (journey.enter key node).after ⟨context, events, verdict⟩
        have hafter : visit.after = context := by simp [visit, Visit.after, Visit.effect?, heffect]
        have htrace : reached.trace = journey.trace ++ .stepStarted key node.type :: events := by
          simp [reached]
        simp only [proceed, Visit.effect?, heffect]
        cases verdict with
        | goTo target =>
          rw [ih, Course.played_preceded _ visit journey (reached.moveTo key target) hafter.symm rfl
            (by simp [visit, Visit.events, Visit.leads?, Visit.effect?, heffect, htrace])]
          rfl
        | stop =>
          have hplayed := Course.played_preceded ⟨[], .finished, next⟩ visit journey reached
            hafter.symm rfl
            (by simp [visit, Visit.events, Visit.leads?, Visit.effect?, heffect, htrace])
          rw [Course.played_finished] at hplayed
          exact hplayed.symm
        | fail cause =>
          have hplayed := Course.played_preceded ⟨[], .failed key cause, next⟩ visit journey
            reached hafter.symm rfl
            (by simp [visit, Visit.events, Visit.leads?, Visit.effect?, heffect, htrace])
          rw [Course.played_failed] at hplayed
          exact hplayed.symm
        | breakOff obstacle =>
          have hplayed := Course.played_preceded ⟨[], .brokenOff obstacle, next⟩ visit journey
            reached hafter.symm rfl
            (by simp [visit, Visit.events, Visit.leads?, Visit.effect?, heffect, htrace])
          rw [Course.played_brokenOff] at hplayed
          exact hplayed.symm

/-- The visits of a course follow each other from its key on. -/
theorem course_follows (graph : Graph) (handler : Handler σ) (budget left : Nat) (key : String)
    (context : Context) (state : σ) :
    Follows graph handler key context state
      (graph.course handler budget left key context state).visits := by
  induction left generalizing key context state with
  | zero =>
    rw [course]
    cases graph.nodes.at? key <;> exact .nil key context state
  | succ left ih =>
    rw [course]
    cases hnode : graph.nodes.at? key with
    | none => exact .nil key context state
    | some node =>
      let visit : Visit := ⟨key, node, context, (node.consult handler context state).1⟩
      have hagrees : visit.Agrees graph handler state := ⟨hnode, rfl⟩
      simp only
      cases heffect : visit.effect? with
      | none => exact .last hagrees
      | some effect =>
        obtain ⟨next, events, verdict⟩ := effect
        cases verdict with
        | goTo target =>
          have hafter : visit.after = next := by simp [Visit.after, heffect]
          have hrest := ih target next (visit.stateAfter handler state)
          rw [← hafter] at hrest
          have hleads : visit.leads? = some target := by simp [Visit.leads?, heffect]
          apply Follows.cons hagrees hleads
          rw [← hafter]
          exact hrest
        | stop => exact .last hagrees
        | fail cause => exact .last hagrees
        | breakOff obstacle => exact .last hagrees

/-- Playing a run from its start shows its course. -/
theorem play_run (graph : Graph) (handler : Handler σ) (budget : Nat) (start : String)
    (context : Context) (state : σ) :
    (graph.run budget start context).play handler state =
      (graph.courseOf handler budget start context state).played ⟨context, 0, []⟩ :=
  graph.play_walk handler budget budget start ⟨context, 0, []⟩ state

/-- The report of a run is the one of its course. -/
theorem report?_of_play {graph : Graph} {handler : Handler σ} {budget : Nat} {start : String}
    {context : Context} {state : σ} {report : Report}
    (hreport : ((graph.run budget start context).play handler state).result =
      some (.ok report)) :
    (graph.courseOf handler budget start context state).report? ⟨context, 0, []⟩ =
      some report := by
  rw [graph.play_run handler] at hreport
  exact Course.outcome?_eq_ok.1 hreport

end Graph

end FlowDesk
