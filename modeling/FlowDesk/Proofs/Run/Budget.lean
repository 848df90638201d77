/-
# A budget only cuts runs off

Two runs of the same graph from the same start differ in nothing but their
budgets.  Either the smaller budget is enough, and then the runs are the same to
the last event; or it is not, and then the smaller run stops before a node that
exists, with all its steps spent, and everything up to its last event stands at
the beginning of the larger run (`Course.Within`).  The comparison is made once
for courses, by one induction along the smaller one, and read off for calls,
reports and events.

The main result is `budget_truncates`.
-/

import FlowDesk.Proofs.Run.Trace

namespace FlowDesk

variable {σ : Type}

/-! ## Comparing courses -/

/-- A course is cut off from a longer one before a node: no step is left, the
node exists, and the longer course makes the same visits first. -/
structure Course.CutOff (course longer : Course σ) (graph : Graph) (budget left : Nat)
    (stop : String) : Prop where
  ending : course.ending = .failed stop (.budgetExhausted budget stop)
  length : course.visits.length = left
  has : graph.nodes.has stop
  visits : course.visits <+: longer.visits

/-- How a course with some steps left compares to one with more of them. -/
inductive Course.Within (course longer : Course σ) (graph : Graph) (budget left : Nat) : Prop
  | cut (stop : String) (hcut : course.CutOff longer graph budget left stop)
  | whole (hsame : course = longer) (hlength : course.visits.length ≤ left)
    (hending : ∀ here stop, course.ending ≠ .failed here (.budgetExhausted budget stop))

namespace Course.Within

variable {course longer : Course σ} {graph : Graph} {budget left : Nat}

/-- A course has no more visits than steps were left. -/
theorem length_le (hwithin : course.Within longer graph budget left) :
    course.visits.length ≤ left := by
  cases hwithin with
  | cut stop hcut => exact hcut.length.le
  | whole hsame hlength hending => exact hlength

/-- Courses compare in the same way with one visit before both. -/
theorem preceded (hwithin : course.Within longer graph budget left) (visit : Visit) :
    (course.preceded visit).Within (longer.preceded visit) graph budget (left + 1) := by
  cases hwithin with
  | cut stop hcut =>
    refine .cut stop ⟨hcut.ending, ?_, hcut.has, ?_⟩
    · rw [Course.preceded, List.length_cons, hcut.length]
    · exact List.cons_prefix_cons.2 ⟨rfl, hcut.visits⟩
  | whole hsame hlength hending =>
    exact .whole (congrArg (Course.preceded · visit) hsame) (Nat.succ_le_succ hlength) hending

/-- A course that ends at its one visit is whole. -/
theorem single (visit : Visit) {ending : Ending} (state : σ) (hending : ending.unentered? = none) :
    (⟨[visit], ending, state⟩ : Course σ).Within ⟨[visit], ending, state⟩ graph budget
      (left + 1) := by
  refine .whole rfl (Nat.succ_le_succ (Nat.zero_le left)) ?_
  rintro here stop rfl
  cases hending

end Course.Within

namespace Graph

variable (graph : Graph) (handler : Handler σ)

/-- One step of two courses that differ in their budgets only, while both have
steps left: they make the same visit, and end there in the same way or go on
from the same place. -/
theorem course_step {key : String} {node : Node} (hnode : graph.nodes.at? key = some node)
    (budget larger left more : Nat) (context : Context) (state : σ) :
    (∃ visit ending later, ending.unentered? = none ∧
      graph.course handler budget (left + 1) key context state = ⟨[visit], ending, later⟩ ∧
      graph.course handler larger (more + 1) key context state = ⟨[visit], ending, later⟩) ∨
    ∃ visit target next later,
      graph.course handler budget (left + 1) key context state =
        (graph.course handler budget left target next later).preceded visit ∧
      graph.course handler larger (more + 1) key context state =
        (graph.course handler larger more target next later).preceded visit := by
  let consulted := node.consult handler context state
  let visit : Visit := ⟨key, node, context, consulted.1⟩
  rw [course, course]
  simp only [hnode]
  cases heffect : visit.effect? with
  | none => exact .inl ⟨visit, .unanswered, consulted.2, rfl, rfl, rfl⟩
  | some effect =>
    simp only
    cases hverdict : effect.verdict with
    | stop => exact .inl ⟨visit, .finished, consulted.2, rfl, rfl, rfl⟩
    | fail cause =>
      exact .inl ⟨visit, .failed key cause, consulted.2, Node.unentered?_of_fail heffect hverdict,
        rfl, rfl⟩
    | breakOff obstacle =>
      exact .inl ⟨visit, .brokenOff obstacle, consulted.2, rfl, rfl, rfl⟩
    | goTo target => exact .inr ⟨visit, target, effect.context, consulted.2, rfl, rfl⟩

/-- A course lies within the one that a larger budget allows. -/
theorem course_within (budget larger : Nat) {left more : Nat} (hle : left ≤ more) (key : String)
    (context : Context) (state : σ) :
    (graph.course handler budget left key context state).Within
      (graph.course handler larger more key context state) graph budget left := by
  induction left generalizing more key context state with
  | zero =>
    rw [course]
    cases hnode : graph.nodes.at? key with
    | none =>
      refine .whole ?_ (Nat.zero_le 0) (fun here stop hending => by cases hending)
      unfold course
      simp only [hnode]
    | some node => exact .cut key ⟨rfl, rfl, by simp [Table.has, hnode], List.nil_prefix⟩
  | succ left ih =>
    obtain ⟨more, rfl⟩ := Nat.exists_eq_succ_of_ne_zero (Nat.ne_zero_of_lt hle)
    cases hnode : graph.nodes.at? key with
    | none =>
      refine .whole ?_ ?_ ?_ <;> rw [course] <;> simp only [hnode]
      · rw [course]
        simp only [hnode]
      · exact Nat.zero_le _
      · exact fun here stop hending => by cases hending
    | some node =>
      rcases graph.course_step handler hnode budget larger left more context state with
        ⟨visit, ending, later, hending, hshort, hlong⟩ | ⟨visit, target, next, later, hshort, hlong⟩
      · rw [hshort, hlong]
        exact .single visit later hending
      · rw [hshort, hlong]
        exact (ih (Nat.le_of_succ_le_succ hle) target next later).preceded visit

end Graph

/-! ## Comparing runs -/

/-- A course that fails comes to a report of the failure. -/
theorem Course.report?_of_failed {course : Course σ} (journey : Journey) {key : String}
    {cause : Failure} (hending : course.ending = .failed key cause) :
    ∃ report, course.report? journey = some report ∧ report.failure = some (key, cause) := by
  unfold Course.report?
  simp only [hending]
  exact ⟨_, rfl, rfl⟩

/-- Visits at the beginning of others make calls and events at the beginning of
theirs. -/
theorem Course.CutOff.calls_events {course longer : Course σ} {graph : Graph} {budget left : Nat}
    {stop : String} (hcut : course.CutOff longer graph budget left stop) :
    course.calls <+: longer.calls ∧ course.events <+: longer.events := by
  obtain ⟨rest, hrest⟩ := hcut.visits
  refine ⟨⟨rest.filterMap Visit.call?, ?_⟩, ⟨rest.flatMap Visit.events, ?_⟩⟩
  · rw [Course.calls, Course.calls, ← List.filterMap_append, hrest]
  · rw [Course.events, Course.events, ← List.flatMap_append, hrest]

/-- **A budget only cuts runs off.**  A run executes no more steps than its
budget and makes no more calls than it executes steps.  Let it have a larger
budget.  Unless it came to the check of the smaller one, it makes the same
calls, emits the same events and ends in the same way.  If it did, it had
executed as many steps as the budget allows and stood at a node that exists; its
calls, and its events but for the failure, are the beginning of those of the
run with the larger budget. -/
theorem budget_truncates (graph : Graph) (handler : Handler σ) (start : String)
    (context : Context) (state : σ) (budget larger : Nat) (hle : budget ≤ larger) :
    let course := graph.courseOf handler budget start context state
    let longer := graph.courseOf handler larger start context state
    let short := (graph.run budget start context).play handler state
    let long := (graph.run larger start context).play handler state
    (course.visits.length ≤ budget ∧ short.calls.length ≤ course.visits.length) ∧
    (∀ report, short.result = some (.ok report) →
      report.executed = course.visits.length ∧ report.trace = course.trace) ∧
    (∀ report, long.result = some (.ok report) → report.trace = longer.trace) ∧
    ((∀ report here key, short.result = some (.ok report) →
        report.failure ≠ some (here, .budgetExhausted budget key)) →
      short = long ∧ course.trace = longer.trace) ∧
    ∀ report here key, short.result = some (.ok report) →
      report.failure = some (here, .budgetExhausted budget key) →
        here = key ∧ report.executed = budget ∧ graph.nodes.has key ∧
        short.calls <+: long.calls ∧
        ∃ events, report.trace =
            events ++ [.stepFailed key (Failure.budgetExhausted budget key).message] ∧
          events <+: longer.trace := by
  intro course longer short long
  have hshort : short = course.played ⟨context, 0, []⟩ :=
    graph.play_run handler budget start context state
  have hlong : long = longer.played ⟨context, 0, []⟩ :=
    graph.play_run handler larger start context state
  have hwithin : course.Within longer graph budget budget :=
    graph.course_within handler budget larger hle start context state
  rw [hshort, hlong]
  refine ⟨⟨hwithin.length_le, List.length_filterMap_le ..⟩, fun report hresult => ?_,
    fun report hresult => (Course.trace_eq (Course.outcome?_eq_ok.1 hresult)).1, fun hnot => ?_,
    fun report here key hresult hfailure => ?_⟩
  · have hreport := Course.outcome?_eq_ok.1 hresult
    exact ⟨(Course.trace_eq hreport).2.2, (Course.trace_eq hreport).1⟩
  · cases hwithin with
    | cut stop hcut =>
      obtain ⟨report, hreport, hfailure⟩ := Course.report?_of_failed ⟨context, 0, []⟩ hcut.ending
      exact absurd hfailure (hnot report stop stop (Course.outcome?_eq_ok.2 hreport))
    | whole hsame hlength hending => exact ⟨by rw [hsame], by rw [hsame]⟩
  · have hreport := Course.outcome?_eq_ok.1 hresult
    have hending := Course.ending_of_failure hreport hfailure
    cases hwithin with
    | whole hsame hlength hnot => exact absurd hending (hnot here key)
    | cut stop hcut =>
      obtain ⟨rfl, rfl⟩ : stop = here ∧ stop = key := by
        have hstop := hcut.ending.symm.trans hending
        simpa using hstop
      obtain ⟨hcalls, hevents⟩ := hcut.calls_events
      obtain ⟨htrace, -, hexecuted⟩ := Course.trace_eq hreport
      refine ⟨rfl, hexecuted.trans hcut.length, hcut.has, hcalls, course.events, ?_,
        hevents.trans (List.prefix_append _ _)⟩
      rw [htrace, Course.trace, hending]
      rfl

/-- A flow that asks again for ever: two steps are the beginning of five, and a
step that is missing after exactly two steps is missing in both runs. -/
theorem budget_truncates_cycle :
    let ask : Step := ⟨"ask", "ask", some "ask", .operation "ask" [] [] none none⟩
    let say : Step := ⟨"say", "say", some "gone", .response "hi"⟩
    let graph : Graph := ⟨"f", [("ask", .step ask), ("one", .step { say with next := some "two" }),
      ("two", .step say)]⟩
    let handler : Handler Unit := fun _ state => (.now (.success []), state)
    let start : Context := ⟨"hello", .number 1, "", "f", "f", none, none, []⟩
    ((graph.run 2 "ask" start).play handler ()).calls.length = 2 ∧
      ((graph.run 2 "ask" start).play handler ()).calls <+:
        ((graph.run 5 "ask" start).play handler ()).calls ∧
      (graph.run 2 "one" start).play handler () = (graph.run 5 "one" start).play handler () := by
  intro ask say graph handler start
  obtain ⟨-, -, -, -, hcut⟩ := budget_truncates graph handler "ask" start () 2 5 (by decide)
  obtain ⟨-, -, -, hsame, -⟩ := budget_truncates graph handler "one" start () 2 5 (by decide)
  refine ⟨rfl, (hcut _ "ask" "ask" rfl rfl).2.2.2.1, (hsame ?_).1⟩
  rintro report here key hreport hfailure
  cases hreport
  cases hfailure

end FlowDesk
