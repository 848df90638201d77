/-
# Isolation of advisors

A desk serves many advisors from one book, and what it says to one of them
depends on that advisor's records only.  A run calls operations for the caller
that it began with (`Graph.run_callsFor`), so it takes the same course over any
two tables of operations that answer that caller in the same way
(`Progress.play_congr`).

The main result is `desk_isolates`: desks over two seeds that hold the same
records of the caller answer alike, and so do their operations.  Readings that
the region's clock skips are left out, and not only those of spring: around one
of them the order of the caller's meetings depends on the meetings of others
(`desk_leaks_around_adoption`).
-/

import FlowDesk.Bundled.Regions
import FlowDesk.Desk
import FlowDesk.Proofs.Operation.Isolation
import FlowDesk.Proofs.Run.Course

namespace FlowDesk

open Calendar

/-! ## Runs call for one caller -/

namespace Progress

variable {σ α β : Type}

/-- Every call of a run, whatever the answers to those before it, is made for a
caller. -/
def CallsFor (caller : Value) : Progress α → Prop
  | .done _ => True
  | .awaits call resume => call.caller = caller ∧ ∀ answer, (resume answer).CallsFor caller

/-- What is made of the result of a run leaves its calls alone. -/
theorem CallsFor.map {caller : Value} {run : Progress α} (hrun : run.CallsFor caller)
    (f : α → β) : (run.map f).CallsFor caller := by
  induction run with
  | done result => trivial
  | awaits call resume ih => exact ⟨hrun.1, fun answer => ih answer (hrun.2 answer)⟩

/-- A run takes the same course against handlers that answer its caller in the
same way. -/
theorem play_congr {caller : Value} {first second : Handler σ}
    (hsame : ∀ call state, call.caller = caller → first call state = second call state)
    {run : Progress α} (hrun : run.CallsFor caller) (state : σ) :
    run.play first state = run.play second state := by
  induction run generalizing state with
  | done result => rfl
  | awaits call resume ih =>
    unfold play
    rw [hsame call state hrun.1]
    split
    · rfl
    · rename_i answer next hanswer
      rw [ih answer (hrun.2 answer) next]

end Progress

namespace Step

/-- A result leaves the caller of the context alone. -/
theorem settle_caller (step : Step) (operation : String) (names : List String)
    (onSuccess onFailure : Option String) (context : Context) (answer : Answer) :
    (step.settle operation names onSuccess onFailure context answer).context.caller =
      context.caller := by
  unfold settle
  split <;> rfl

/-- A response leaves the caller of the context alone. -/
theorem respond_caller (step : Step) (template : String) (context : Context) :
    (step.respond template context).context.caller = context.caller := by
  unfold respond
  split <;> rfl

/-- A branch leaves the caller of the context alone. -/
theorem decide_caller (step : Step) (guard : Guard) (onTrue onFalse : Option String)
    (context : Context) :
    (step.decide guard onTrue onFalse context).context.caller = context.caller := by
  unfold decide
  split <;> rfl

end Step

namespace Graph

/-- A walk calls for the caller of its context. -/
theorem walk_callsFor (graph : Graph) (budget left : Nat) (key : String) {journey : Journey}
    {caller : Caller} (hcaller : journey.context.caller = caller) :
    (graph.walk budget left key journey).CallsFor caller.value := by
  induction left generalizing key journey with
  | zero =>
    unfold walk
    split <;> trivial
  | succ left ih =>
    unfold walk
    split
    · trivial
    · rename_i node _
      have hproceed : ∀ effect : Effect, effect.context.caller = caller →
          (graph.proceed budget left key (journey.enter key node) effect).CallsFor
            caller.value := by
        intro effect heffect
        unfold proceed
        split
        · exact ih _ heffect
        all_goals trivial
      dsimp only
      cases node with
      | stranger other => exact hproceed ⟨journey.context, [], _⟩ hcaller
      | step own =>
        obtain ⟨id, name, next, action⟩ := own
        cases action with
        | operation operation args names onSuccess onFailure =>
          dsimp only
          split
          · rename_i obstacle _
            exact hproceed (Step.meet ⟨id, name, next, _⟩ (.unwritten obstacle) journey.context)
              hcaller
          · rename_i call hcall
            obtain ⟨fields, rfl⟩ := Step.call_eq_ok hcall
            refine ⟨congrArg Caller.value hcaller, fun answer => hproceed _ ?_⟩
            rw [Step.settle_caller]
            exact hcaller
        | branch guard onTrue onFalse =>
          apply hproceed _
          rw [Step.decide_caller]
          exact hcaller
        | response template =>
          apply hproceed _
          rw [Step.respond_caller]
          exact hcaller

/-- A run calls for the caller that it began with. -/
theorem run_callsFor (graph : Graph) (budget : Nat) (start : String) (context : Context) :
    (graph.run budget start context).CallsFor context.caller.value :=
  graph.walk_callsFor budget budget start rfl

end Graph

/-! ## Callers -/

/-- Numbers at the same place are equal to the same values. -/
theorem Value.same_congr {v w : Value} {place : Option Position} (hv : v.numeric? = some place)
    (hw : w.numeric? = some place) (other : Value) : other.same v = other.same w := by
  have hsame : ∀ u : Value, u.numeric? = some place → other.same u =
      match other.numeric? with
      | some own => samePlace own place
      | none => false := by
    intro u hu
    cases u <;> cases hu <;> cases other <;> simp [same, sameScalar, numeric?, number?]
  rw [hsame v hv, hsame w hw]

/-- A number that counts as a whole one is at its place. -/
theorem Binary64.position?_of_whole {x : Binary64} {n : Int}
    (hwhole : Checked.whole (.real x) = .valid n) :
    x.position? = some (.rational (n : Rat)) := by
  unfold Checked.whole at hwhole
  dsimp only at hwhole
  cases x with
  | nan named => cases hwhole
  | infinite negative => cases hwhole
  | finite negative mantissa exponent canonical =>
    cases hvalue : (Binary64.finite negative mantissa exponent canonical).toRat? with
    | none => cases hvalue
    | some q =>
      rw [hvalue] at hwhole
      dsimp only at hwhole
      split at hwhole
      · cases hwhole
      · rename_i hden
        split at hwhole
        · cases hwhole
          rw [position?, hvalue, Option.map_some]
          have hq : q = (q.num : Rat) := Rat.ext rfl (Decidable.not_not.1 hden)
          rw [← hq]
        · cases hwhole

/-- The caller that is read from a value is equal to the same values. -/
theorem Caller.same_read {v : Value} {caller : Caller} (hread : Caller.read v = .valid caller)
    (advisor : Value) : advisor.same caller.value = advisor.same v := by
  have hnumber : ∀ n : Int, Checked.whole v = .valid n → Caller.read v = .valid caller →
      (∀ s, v ≠ .text s) → caller = .number n := by
    intro n hwhole hread htext
    unfold Caller.read at hread
    split at hread
    · exact absurd rfl (htext _)
    · rw [hwhole] at hread
      cases hread
      rfl
  cases v with
  | text s =>
    cases hread
    rfl
  | int n =>
    rw [hnumber n rfl hread (by simp)]
    rfl
  | bool b =>
    rw [hnumber _ rfl hread (by simp)]
    have hplace : (Value.int (if b then 1 else 0)).numeric? =
        some (some (.rational (if b then 1 else 0))) := by
      cases b <;> rfl
    exact Value.same_congr hplace rfl advisor
  | real x =>
    cases hwhole : Checked.whole (.real x) with
    | valid n =>
      rw [hnumber n hwhole hread (by simp)]
      have hplace : (Value.real x).numeric? = some (some (.rational (n : Rat))) :=
        congrArg some (Binary64.position?_of_whole hwhole)
      exact Value.same_congr rfl hplace advisor
    | invalid problems =>
      unfold Caller.read at hread
      dsimp only at hread
      rw [hwhole] at hread
      cases hread
  | null => cases hread
  | list items => cases hread
  | object fields => cases hread

/-! ## Desks -/

namespace Book

/-- Two seeds hold the same records of an advisor, in the same order, whatever
they hold of others.  No meeting is at a reading that the region's clock
skips. -/
def SeedsAgree (region : Region) (advisor : Value) (seed other : Value) : Prop :=
  ∃ own others, records (.region region) seed = .ok own ∧
    records (.region region) other = .ok others ∧
    own.ofAdvisor advisor = others.ofAdvisor advisor ∧
    own.NoneSkipped region ∧ others.NoneSkipped region

/-- The books of such seeds agree for the advisor. -/
theorem agree_of_seeds {region : Region} {advisor seed other : Value} {first second : Book}
    (hseeds : SeedsAgree region advisor seed other)
    (hfirst : ofSeed (.region region) seed = .ok first)
    (hsecond : ofSeed (.region region) other = .ok second) : AgreeFor advisor first second := by
  obtain ⟨own, others, hown, hothers, hsame, hskipped, hskipped'⟩ := hseeds
  rw [ofSeed_eq, hown] at hfirst
  rw [ofSeed_eq, hothers] at hsecond
  cases hfirst
  cases hsecond
  exact ofRecords_agree hsame (shown_of_records hown hskipped) (shown_of_records hothers hskipped')

end Book

namespace Desk

variable {σ : Type}

/-- The caller of a request is that of its inquiry. -/
theorem same_ofInquiry {inquiry : Inquiry} {request : Request}
    (hrequest : Request.ofInquiry inquiry = .valid request) (advisor : Value) :
    advisor.same request.caller.value = advisor.same inquiry.caller := by
  unfold Request.ofInquiry at hrequest
  cases hmessage : Checked.text inquiry.message <;>
    cases hcaller : Caller.read inquiry.caller <;>
    cases hconversation : Checked.text inquiry.conversation <;>
    rw [hmessage, hcaller, hconversation] at hrequest <;> cases hrequest
  exact Caller.same_read hcaller advisor

/-- The task of running a flow for a request calls operations for its caller. -/
theorem taskFor_callsFor (desk : Desk σ) (flow : Flow) (request : Request) :
    (desk.taskFor flow request).run.CallsFor request.caller.value := by
  have hrun : (desk.runFor flow request).CallsFor request.caller.value :=
    flow.graph.run_callsFor desk.budget flow.initialStep (contextFor flow request)
  unfold taskFor
  split
  · exact hrun.map _
  · dsimp only
    split
    · trivial
    · exact hrun.map _

/-- The task of answering an inquiry calls operations for its caller. -/
theorem task_callsFor (desk : Desk σ) (inquiry : Inquiry) :
    ∃ caller : Value, (∀ advisor : Value, advisor.same caller = advisor.same inquiry.caller) ∧
      (desk.task inquiry).run.CallsFor caller := by
  unfold task
  split
  · exact ⟨inquiry.caller, fun _ => rfl, trivial⟩
  · exact ⟨inquiry.caller, fun _ => rfl, trivial⟩
  · rename_i flow _
    split
    · exact ⟨inquiry.caller, fun _ => rfl, trivial⟩
    · rename_i request hrequest
      exact ⟨request.caller.value, same_ofInquiry hrequest, desk.taskFor_callsFor flow request⟩

/-- Desks that differ in their operations only answer an inquiry in the same way
when the operations answer its caller in the same way. -/
theorem handle_congr (desk : Desk σ) {first second : Operations σ} {inquiry : Inquiry}
    (hsame : ∀ call state, (∀ advisor : Value, advisor.same call.caller =
      advisor.same inquiry.caller) → first.handler call state = second.handler call state)
    (state : σ) :
    ({ desk with operations := first }).handle inquiry state =
      ({ desk with operations := second }).handle inquiry state := by
  obtain ⟨caller, hcaller, hcalls⟩ := desk.task_callsFor inquiry
  have hplay := Progress.play_congr (fun call state hcall => hsame call state fun advisor => by
    rw [hcall, hcaller]) hcalls state
  have htask : ∀ operations : Operations σ,
      ({ desk with operations := operations }).task inquiry = desk.task inquiry := fun _ => rfl
  unfold handle
  rw [htask first, htask second]
  dsimp only
  rw [hplay]

end Desk

/-- **Isolation of advisors.**  Over two seeds that hold the same records of a
caller, and no meetings at readings that the region's clock skips, desks answer
an inquiry of the caller in the same way, and operations a call for it. -/
theorem desk_isolates {σ : Type} (region : Region) (seed other : Value) (first second : Book)
    (hfirst : Book.ofSeed (.region region) seed = .ok first)
    (hsecond : Book.ofSeed (.region region) other = .ok second) (inquiry : Inquiry)
    (hseeds : Book.SeedsAgree region inquiry.caller seed other) (clock : Moment)
    (newsAddress : String) (fetch : News.Fetcher σ) (catalogue : Catalogue) (budget : Nat)
    (timeout : Option Binary64) (recording : Bool) (state : σ) :
    let operations (book : Book) : Operations σ :=
      Surroundings.operations ⟨book, region, clock, newsAddress, fetch⟩
    let desk (book : Book) : Desk σ := ⟨catalogue, operations book, budget, timeout, recording⟩
    (desk first).handle inquiry state = (desk second).handle inquiry state ∧
      ∀ operation args, (operations first).handler ⟨operation, args, inquiry.caller⟩ state =
        (operations second).handler ⟨operation, args, inquiry.caller⟩ state := by
  intro operations desk
  have hagree := Book.agree_of_seeds hseeds hfirst hsecond
  let around : Surroundings σ := ⟨first, region, clock, newsAddress, fetch⟩
  refine ⟨(desk first).handle_congr (fun call state hcaller => ?_) state, fun operation args => ?_⟩
  · have hcall : Book.AgreeFor call.caller first second :=
      ⟨by simpa only [hcaller] using hagree.clients, by simpa only [hcaller] using hagree.meetings⟩
    exact around.handler_eq hcall state
  · have hcall : Book.AgreeFor (Call.mk operation args inquiry.caller).caller first second := hagree
    exact around.handler_eq hcall state

/-- A meeting of another advisor on the day before makes no difference. -/
theorem desk_isolates_from_neighbour :
    let meeting (id advisor : Int) (start : String) : Value := .object
      [("id", .int id), ("advisor_id", .int advisor), ("subject", .text ""),
        ("date_time", .text start)]
    let seed : Value := .object [("meetings", .list
      [meeting 1 1 "2025-01-02", meeting 2 2 "2025-01-01"])]
    let other : Value := .object [("meetings", .list [meeting 1 1 "2025-01-02"])]
    let clock : Moment := ⟨⟨0, by decide, by decide⟩, .region .rome, false⟩
    let fetch : News.Fetcher Unit := fun _ state => (.unreachable, state)
    let inquiry : Inquiry := ⟨.text "hello", .int 1, .text "", .null⟩
    ∃ first second : Book, Book.ofSeed (.region .rome) seed = .ok first ∧
      Book.ofSeed (.region .rome) other = .ok second ∧
      let operations (book : Book) : Operations Unit :=
        Surroundings.operations ⟨book, .rome, clock, "", fetch⟩
      let desk (book : Book) : Desk Unit := ⟨.empty, operations book, 1, none, false⟩
      (desk first).handle inquiry () = (desk second).handle inquiry () ∧
        ∀ operation args, (operations first).handler ⟨operation, args, inquiry.caller⟩ () =
          (operations second).handler ⟨operation, args, inquiry.caller⟩ () := by
  intro meeting seed other clock fetch inquiry
  let day (ticks : Int) (h : 0 ≤ ticks ∧ ticks < clockLimit) : Moment :=
    ⟨⟨ticks, h.1, h.2⟩, .region .rome, false⟩
  let record (id advisor : Int) (start : Moment) : Meeting :=
    ⟨.int id, .int advisor, .text "", start, .int 60, .null, .text "", .text ""⟩
  let own : Records := ⟨[], [record 1 1 (day 63871372800000000 (by decide)),
    record 2 2 (day 63871286400000000 (by decide))]⟩
  let others : Records := ⟨[], [record 1 1 (day 63871372800000000 (by decide))]⟩
  have hown : Book.records (.region .rome) seed = .ok own := rfl
  have hothers : Book.records (.region .rome) other = .ok others := rfl
  have hfirst : Book.ofSeed (.region .rome) seed = .ok own.book := by
    rw [Book.ofSeed_eq, hown]
    rfl
  have hsecond : Book.ofSeed (.region .rome) other = .ok others.book := by
    rw [Book.ofSeed_eq, hothers]
    rfl
  refine ⟨own.book, others.book, hfirst, hsecond, desk_isolates .rome seed other _ _ hfirst hsecond
    inquiry ⟨own, others, hown, hothers, rfl, ?_, ?_⟩ clock "" fetch .empty 1 none false ()⟩
  · intro meeting hmem hzone
    simp only [own, List.mem_cons, List.not_mem_nil, or_false] at hmem
    rcases hmem with rfl | rfl <;> decide
  · intro meeting hmem hzone
    rw [List.mem_singleton.1 hmem]
    decide

/-- The ids of the meetings that an answer lists, as far as they are whole
numbers. -/
def Delivery.meetingIds (delivery : Delivery) : List Int :=
  match delivery.answer? with
  | some (.value (.object fields)) =>
    match Table.at? fields "meetings" with
    | some (.list meetings) => meetings.filterMap fun
      | .object fields => (Table.at? fields "id").bind fun
        | .int id => some id
        | _ => none
      | _ => none
    | _ => []
  | _ => []

/-- When Rome adopted standard time its clock skipped readings without daylight
time.  Around them a meeting of another advisor turns the order of a caller's
meetings. -/
theorem desk_leaks_around_adoption :
    let meeting (id advisor : Int) (start : String) : Value := .object
      [("id", .int id), ("advisor_id", .int advisor), ("subject", .text ""),
        ("date_time", .text start)]
    let seed : Value := .object [("meetings", .list
      [meeting 1 1 "1893-11-01T00:00:00", meeting 2 2 "1893-10-31T23:02:00+00:00",
        meeting 3 1 "1893-10-31T23:55:00"])]
    let other : Value := .object [("meetings", .list
      [meeting 1 1 "1893-11-01T00:00:00", meeting 3 1 "1893-10-31T23:55:00"])]
    let clock : Moment := ⟨⟨0, by decide, by decide⟩, .region .universal, false⟩
    let fetch : News.Fetcher Unit := fun _ state => (.unreachable, state)
    let listed (book : Book) : List Int :=
      (Operations.handler (Surroundings.operations ⟨book, .rome, clock, "", fetch⟩)
        ⟨"get_meetings_by_date_range", .object [("date_range", .text "all")], .int 1⟩
        ()).1.meetingIds
    ∃ own others, Book.records (.region .rome) seed = .ok own ∧
      Book.records (.region .rome) other = .ok others ∧
      own.ofAdvisor (.int 1) = others.ofAdvisor (.int 1) ∧
      (∀ meeting ∈ own.meetings ++ others.meetings, meeting.start.zone = .region .rome →
        ¬ Region.rome.SkipsInSpring meeting.start.clock.ticks) ∧
      listed own.book = [1, 3] ∧ listed others.book = [3, 1] := by
  intro meeting seed other clock fetch listed
  let record (id advisor : Int) (start : Moment) : Meeting :=
    ⟨.int id, .int advisor, .text "", start, .int 60, .null, .text "", .text ""⟩
  let after : Meeting :=
    record 1 1 ⟨⟨59732035200000000, by decide, by decide⟩, .region .rome, false⟩
  let between : Meeting :=
    record 2 2 ⟨⟨59732031720000000, by decide, by decide⟩, .constant 0, false⟩
  let skipped : Meeting :=
    record 3 1 ⟨⟨59732034900000000, by decide, by decide⟩, .region .rome, false⟩
  refine ⟨⟨[], [after, between, skipped]⟩, ⟨[], [after, skipped]⟩, rfl, rfl, rfl, ?_, ?_, ?_⟩
  · intro meeting hmem hzone
    simp only [List.cons_append, List.nil_append, List.mem_cons, List.not_mem_nil, or_false] at hmem
    rcases hmem with rfl | rfl | rfl | rfl | rfl <;> decide
  · decide +kernel
  · decide +kernel

end FlowDesk
