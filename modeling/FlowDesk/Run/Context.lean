/-
# The context of a run

What one run of a flow knows: the message it answers and who sent it, which
never change, and what its steps have found so far.
-/

import FlowDesk.Value.Depth
import FlowDesk.Value.Finite
import FlowDesk.Value.Path

namespace FlowDesk

/-- Who a run is for: a number, or a name. -/
inductive Caller where
  | number (n : Int)
  | name (s : String)
  deriving DecidableEq

/-- The caller as a value. -/
def Caller.value : Caller → Value
  | .number n => .int n
  | .name s => .text s

/-- The state of one run. -/
structure Context where
  message : String
  caller : Caller
  conversation : String
  flowId : String
  flowName : String
  result : Option Fields
  response : Option String
  bindings : Fields

namespace Context

/-- The fields that paths and reports see, in order. -/
def fields (context : Context) : Fields :=
  [ ("message", .text context.message),
    ("caller_id", context.caller.value),
    ("conversation_id", .text context.conversation),
    ("flow_id", .text context.flowId),
    ("flow_name", .text context.flowName),
    ("result", .ofOption (context.result.map .object)),
    ("response", .ofText? context.response),
    ("variables", .object context.bindings) ]

/-- The context as a value. -/
def value (context : Context) : Value :=
  .object context.fields

/-- The parts of a context that may be of any shape. -/
def freeParts (context : Context) : List Value :=
  (context.result.getD []).values ++ context.bindings.values

/-- The context as data without numbers that have no digits, unless it is
nested too deeply to be given out. -/
def output? (context : Context) : Option Value :=
  Value.givenOut? context.freeParts context.value.finite

/-- The value that a dotted path leads to from the context. -/
def follow? (context : Context) (path : String) : Option Value :=
  context.value.follow? (Path.segments path)

end Context

end FlowDesk
