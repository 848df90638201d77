/-
# The catalogue of flows

The flows that answer messages, each under its own id and in a fixed order.
The order decides: of the flows whose keywords occur in a message, the first
one answers it.
-/

import FlowDesk.Distinct
import FlowDesk.Flow.Lint
import FlowDesk.Run.Call
import FlowDesk.Text.Blank
import FlowDesk.Text.Case

namespace FlowDesk

namespace Trigger

/-- Whether a keyword occurs in a lowered message. Case does not count, and
an empty keyword occurs nowhere. -/
def hears (lowered keyword : String) : Bool :=
  keyword ≠ "" && Text.contains lowered (Text.lower keyword)

/-- Whether a trigger fires on a lowered message. -/
def fires (trigger : Trigger) (lowered : String) : Bool :=
  decide (trigger.kind = .keyword) && trigger.keywords.any (hears lowered)

end Trigger

/-- The first of some flows whose trigger fires on a message. -/
def Flow.select? (message : String) (flows : List Flow) : Option Flow :=
  let lowered := Text.lower message
  flows.find? fun flow => flow.trigger.fires lowered

/-- Flows with different ids, in order. -/
structure Catalogue where
  flows : List Flow
  distinct : (flows.map Flow.id).Nodup

namespace Catalogue

/-- The catalogue without flows. -/
def empty : Catalogue := ⟨[], List.nodup_nil⟩

/-- The catalogue of some flows, or the id that two of them share. -/
def ofFlows (flows : List Flow) : Except String Catalogue :=
  match hrepeated : Distinct.repeated? (flows.map Flow.id) with
  | some id => .error id
  | none => .ok ⟨flows, Distinct.nodup_of_repeated?_eq_none _ hrepeated⟩

/-- The sentence that refuses two flows with one id. -/
def duplicateMessage (id : String) : String := s!"duplicate flow id: {id}"

/-- The flow with an id. -/
def find? (catalogue : Catalogue) (id : String) : Option Flow :=
  catalogue.flows.find? fun flow => flow.id == id

/-- Look a flow up by what may be an id; what is no text is no id, and some data
cannot be looked up by at all. -/
def lookUp (catalogue : Catalogue) (id : Value) : Except Fault (Option Flow) :=
  match id with
  | .text s => .ok (catalogue.find? s)
  | .list _ => .error (.noKey id.kindName)
  | .object _ => .error (.noKey id.kindName)
  | _ => .ok none

/-- The first flow whose trigger fires on what may be a message. -/
def choose (catalogue : Catalogue) (message : Value) : Except Fault (Option Flow) :=
  match message with
  | .text s => .ok (Flow.select? s catalogue.flows)
  | v => .error (.noMember v.kindName "lower")

/-- The ids in order. -/
def ids (catalogue : Catalogue) : List String :=
  catalogue.flows.map Flow.id

/-- What is reported when the flows are registered. -/
def warnings (catalogue : Catalogue) (known : Option (List String)) : List String :=
  catalogue.flows.flatMap fun flow =>
    (flow.findings known).map fun finding => s!"Flow {flow.id}: {finding.message}"

/-- The sentence that reports a flow file that is not there. -/
def missingMessage (path : String) : String :=
  s!"Flow file {path} not found — registry is empty"

end Catalogue

end FlowDesk
