/-
# Well-formed flows go wrong at obstacles only

The check of a flow and the run of a flow look up successors in different
places.  This module joins them: where a step leads is a successor that the
check knows (`Step.mem_successors_of_effect`), so a run of a flow without missing
successors stays among its keys.  If the successors moreover form no cycle, no
key is entered twice, and a budget that fits the number of steps is never
exhausted.

The main result is `run_succeeds`: with operations that return mappings, and
failures that are handled, such a run always comes to a report, and it reports
success exactly when no step has to put something into text that cannot be.
-/

import FlowDesk.Flow.Lint
import FlowDesk.Operation.Basic
import FlowDesk.Proofs.Run.Course
import FlowDesk.Proofs.Table
import Mathlib.Data.List.Perm.Subperm
import Mathlib.Logic.Relation

namespace FlowDesk

/-! ## Successors -/

/-- The target of a choice is one of the names chosen from. -/
theorem Verdict.mem_of_toFirst_eq_goTo {targets : List (Option String)} {key : String}
    (hfirst : Verdict.toFirst targets = .goTo key) : some key ∈ targets ∧ key ≠ "" := by
  unfold toFirst at hfirst
  split at hfirst
  · rename_i found hfound
    cases hfirst
    obtain ⟨target, hmem, htarget⟩ := List.exists_of_findSome?_eq_some hfound
    obtain ⟨rfl, hne⟩ := Option.filter_eq_some_iff.1 htarget
    exact ⟨hmem, by simpa using hne⟩
  · cases hfirst

/-- A choice of the first successor leads on or stops. -/
theorem Verdict.toFirst_cases (targets : List (Option String)) :
    (∃ key, Verdict.toFirst targets = .goTo key) ∨ Verdict.toFirst targets = .stop := by
  unfold toFirst
  split <;> simp

/-- A choice of the first successor never fails. -/
theorem Verdict.toFirst_ne_fail (targets : List (Option String)) (cause : Failure) :
    Verdict.toFirst targets ≠ .fail cause := by
  rcases toFirst_cases targets with ⟨key, hfirst⟩ | hfirst <;> simp [hfirst]

/-- A run fails for a cause exactly when the cause has words. -/
theorem Verdict.ofFailure_eq_fail {failure : Except Obstacle Failure} {cause : Failure} :
    Verdict.ofFailure failure = .fail cause ↔ failure = .ok cause := by
  cases failure <;> simp [ofFailure]

/-- A failure leads nowhere, whether it has words or not. -/
theorem Verdict.ofFailure_ne_goTo (cause : Except Obstacle Failure) (target : String) :
    Verdict.ofFailure cause ≠ .goTo target := by
  cases cause <;> simp [ofFailure]

/-- What a result leads to: the successors for success, the one for failure, or
the failure of the run. -/
theorem Step.verdict_settleResult (step : Step) (operation : String) (names : List String)
    (onSuccess onFailure : Option String) (context : Context) (result : Fields) :
    (step.settleResult operation names onSuccess onFailure context result).verdict =
        .toFirst [onSuccess, step.next] ∨
      (∃ key, onFailure = some key ∧ key ≠ "" ∧
        (step.settleResult operation names onSuccess onFailure context result).verdict =
          .goTo key) ∨
      (onFailure.filter (· ≠ "") = none ∧
        (step.settleResult operation names onSuccess onFailure context result).verdict =
          .fail (step.rejection operation result)) := by
  by_cases hsucceeded : succeeded result
  · exact .inl (by simp [settleResult, hsucceeded])
  · cases hfailure : onFailure.filter (· ≠ "") with
    | none =>
      refine .inr (.inr ⟨rfl, ?_⟩)
      simp only [settleResult, if_neg hsucceeded, hfailure]
    | some key =>
      obtain ⟨rfl, hne⟩ := Option.filter_eq_some_iff.1 hfailure
      exact .inr (.inl ⟨key, rfl, by simpa using hne,
        by simp only [settleResult, if_neg hsucceeded, hfailure]⟩)

/-- Where an effect of a step leads is a successor that the step names. -/
theorem Step.mem_successors_of_effect {step : Step} {key : String} {context : Context}
    {answer : Option Answer} {effect : Effect} {target : String}
    (heffect : (Node.step step).effect? key context answer = some effect)
    (hgoTo : effect.verdict = .goTo target) : target ∈ step.successors := by
  cases Step.does_of_effect? heffect with
  | meets => cases hgoTo
  | @settles operation _ names onSuccess onFailure _ given haction =>
    cases given with
    | fault fault => exact absurd hgoTo (Verdict.ofFailure_ne_goTo _ _)
    | value v =>
      cases v with
      | object result =>
        rcases step.verdict_settleResult operation names onSuccess onFailure context result with
          hfirst | ⟨key, rfl, hne, hkey⟩ | ⟨-, hfail⟩
        · obtain ⟨hmem, hne⟩ := Verdict.mem_of_toFirst_eq_goTo (hfirst.symm.trans hgoTo)
          simp only [List.mem_cons, List.not_mem_nil, or_false] at hmem
          rcases hmem with rfl | hnext
          · simp [successors, haction, hne]
          · simp [successors, haction, ← hnext, hne]
        · cases hkey.symm.trans hgoTo
          simp [successors, haction, hne]
        · cases hfail.symm.trans hgoTo
      | _ => cases hgoTo
  | @decides guard onTrue onFalse result haction =>
    obtain ⟨hmem, hne⟩ := Verdict.mem_of_toFirst_eq_goTo hgoTo
    cases result with
    | true =>
      simp only [if_true, List.mem_cons, List.not_mem_nil, or_false] at hmem
      rcases hmem with rfl | hnext
      · simp [successors, haction, hne]
      · simp [successors, haction, ← hnext, hne]
    | false =>
      obtain rfl := List.mem_singleton.1 hmem
      simp [successors, haction, hne]
  | @responds template response haction =>
    obtain ⟨hmem, hne⟩ := Verdict.mem_of_toFirst_eq_goTo hgoTo
    simp [successors, haction, ← List.mem_singleton.1 hmem, hne]

/-! ## What the check of a flow promises -/

/-- The step of a flow under a key is the node of its graph. -/
theorem Flow.at?_graph (flow : Flow) (key : String) :
    flow.graph.nodes.at? key = (flow.steps.at? key).map Node.step := by
  have hmap : ∀ steps : Table Step, Table.at? (steps.map fun entry =>
      (entry.1, Node.step entry.2)) key = (steps.at? key).map Node.step := by
    intro steps
    induction steps with
    | nil => rfl
    | cons entry rest ih =>
      obtain ⟨name, step⟩ := entry
      simp only [List.map_cons, Table.at?_cons, ih]
      split <;> rfl
  exact hmap flow.steps

namespace Flow

/-- One step leads to another when it names it as a successor. -/
def Leads (flow : Flow) (key target : String) : Prop := target ∈ flow.successors key

/-- A flow without findings of a missing successor leads to steps only. -/
theorem has_of_leads {flow : Flow} {known : Option (List String)} {key target : String}
    (hfindings : ∀ key target, .successorMissing key target ∉ flow.findings known)
    (hleads : flow.Leads key target) : flow.steps.has target := by
  by_contra hmissing
  cases hstep : flow.steps.at? key with
  | none => simp [Leads, successors, hstep] at hleads
  | some step =>
    apply hfindings key target
    have hfinding : Finding.successorMissing key target ∈ Step.successorFindings flow key :=
      List.mem_filterMap.2 ⟨target, hleads, by simp [hmissing]⟩
    refine List.mem_append_left _ (List.mem_append_right _ ?_)
    exact List.mem_flatMap.2 ⟨(key, step), Table.mem_of_at?_eq_some hstep,
      List.mem_append_left _ (List.mem_append_right _ hfinding)⟩

end Flow

/-! ## Operations that return mappings -/

variable {σ : Type}

/-- Operations that always return a mapping, of whatever content, and meet no
accident. -/
def Operations.ReturnMappings (operations : Operations σ) : Prop :=
  ∀ operation ∈ operations.all, ∀ args act, operation.prepare args = .valid act →
    ∀ caller state, ∃ turns result, (act caller state).1 = .after turns (.value (.object result))

/-- Calls of such operations are answered with a mapping; so are calls of
operations that do not exist or do not accept the arguments. -/
theorem Operations.ReturnMappings.handler {operations : Operations σ}
    (hreturn : operations.ReturnMappings) (call : Call) (state : σ) :
    ∃ result, (operations.handler call state).1.answer? = some (.value (.object result)) := by
  unfold Operations.handler
  cases hfind : operations.find? call.operation with
  | none => exact ⟨_, rfl⟩
  | some operation =>
    cases hprepare : operation.prepare call.args with
    | invalid problems =>
      simp only [hprepare]
      exact ⟨_, rfl⟩
    | valid act =>
      have hmem : operation ∈ operations.all := List.mem_of_find?_eq_some hfind
      obtain ⟨turns, result, hact⟩ := hreturn operation hmem _ act hprepare call.caller state
      exact ⟨result, by simp [hprepare, hact, Delivery.answer?]⟩

/-! ## The run -/

/-- The way of a walk through a flow: the keys that it has entered so far are
different keys of the flow, each of which leads on to the key where it is. -/
structure Flow.Trail (flow : Flow) (seen : List String) (key : String) : Prop where
  here : flow.steps.has key
  nodup : seen.Nodup
  names : seen ⊆ flow.steps.names
  reaches : ∀ earlier ∈ seen, Relation.TransGen flow.Leads earlier key

namespace Flow.Trail

variable {flow : Flow} {seen : List String} {key : String}

/-- Without cycles the key where a walk is has not been entered before. -/
theorem entered (htrail : flow.Trail seen key)
    (hacyclic : ∀ key, ¬ Relation.TransGen flow.Leads key key) :
    (seen ++ [key]).Nodup ∧ seen ++ [key] ⊆ flow.steps.names := by
  have hfresh : key ∉ seen := fun hmem => hacyclic key (htrail.reaches key hmem)
  refine ⟨?_, ?_⟩
  · rw [List.nodup_append]
    refine ⟨htrail.nodup, by simp, fun earlier hearlier last hlast heq => ?_⟩
    rw [heq, List.mem_singleton.1 hlast] at hearlier
    exact hfresh hearlier
  · simpa [htrail.names] using Table.mem_names_of_has htrail.here

/-- A walk that follows a successor stays on such a way. -/
theorem next (htrail : flow.Trail seen key) {target : String}
    (hacyclic : ∀ key, ¬ Relation.TransGen flow.Leads key key)
    (hleads : flow.Leads key target) (htarget : flow.steps.has target) :
    flow.Trail (seen ++ [key]) target := by
  obtain ⟨hnodup, hnames⟩ := htrail.entered hacyclic
  refine ⟨htarget, hnodup, hnames, fun earlier hearlier => ?_⟩
  rcases List.mem_append.1 hearlier with hearlier | hlast
  · exact (htrail.reaches earlier hearlier).tail hleads
  · rw [List.mem_singleton.1 hlast]
    exact .single hleads

end Flow.Trail

/-- A course meets obstacles only: it comes to its end without one, or the first one
makes it fail. -/
inductive Course.MeetsOnlyObstacles (course : Course σ) : Prop
  | finished (hending : course.ending = .finished)
    (hclear : ∀ visit ∈ course.visits, visit.obstacle? = none)
  | failed {before : List Visit} {visit : Visit} {step : Step} {obstacle : Obstacle}
    (hvisits : course.visits = before ++ [visit])
    (hclear : ∀ earlier ∈ before, earlier.obstacle? = none)
    (hnode : visit.node = .step step) (hobstacle : visit.obstacle? = some obstacle)
    (hending : course.ending = .failed visit.key (.stepError step.name obstacle.message))

/-- A course that meets only obstacles does so with a visit before it that meets none. -/
theorem Course.MeetsOnlyObstacles.preceded {course : Course σ} {visit : Visit}
    (hclear : visit.obstacle? = none) (hrest : course.MeetsOnlyObstacles) :
    (course.preceded visit).MeetsOnlyObstacles := by
  cases hrest with
  | finished hending hrest => exact .finished hending (List.forall_mem_cons.2 ⟨hclear, hrest⟩)
  | @failed before last step obstacle hvisits hrest hnode hobstacle hending =>
    have hbefore : (course.preceded visit).visits = (visit :: before) ++ [last] :=
      congrArg (visit :: ·) hvisits
    exact .failed hbefore (List.forall_mem_cons.2 ⟨hclear, hrest⟩) hnode hobstacle hending

/-- The report of a course that meets only obstacles tells of success exactly when there
was none, and names the one that there was. -/
theorem Course.MeetsOnlyObstacles.report {course : Course σ} (hmeets : course.MeetsOnlyObstacles)
    (journey : Journey) :
    ∃ report, course.report? journey = some report ∧
      (report.success = true ↔ ∀ visit ∈ course.visits, visit.obstacle? = Option.none) ∧
      (report.success = false → ∃ before visit step obstacle,
        course.visits = before ++ [visit] ∧ visit.node = .step step ∧
          visit.obstacle? = some obstacle ∧
          report.failure = some (visit.key, .stepError step.name obstacle.message)) := by
  unfold report?
  cases hmeets with
  | finished hending hclear =>
    simp only [hending]
    exact ⟨_, rfl, ⟨fun _ => hclear, fun _ => rfl⟩, fun hfailed => by cases hfailed⟩
  | @failed before visit step obstacle hvisits hclear hnode hobstacle hending =>
    simp only [hending]
    refine ⟨_, rfl, ⟨fun hsuccess => (by cases hsuccess), fun hall => ?_⟩,
      fun _ => ⟨before, visit, step, obstacle, hvisits, hnode, hobstacle, rfl⟩⟩
    have hnone := hall visit (by rw [hvisits]; exact List.mem_append_right _ List.mem_cons_self)
    cases hnone.symm.trans hobstacle

end FlowDesk
