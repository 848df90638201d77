/-
# Guards

A guard asks one question about the context of a run: it compares the value
at a path with an expected one. A path that leads nowhere fails every guard.
What a text is asked to contain has to be put into text first, and when it cannot
be written the question has no answer.
-/

import FlowDesk.Run.Context
import FlowDesk.Text.Blank
import FlowDesk.Value.Compare
import FlowDesk.Value.Shown

namespace FlowDesk

/-- What a guard asks. -/
inductive Operator where
  | equal
  | different
  | greater
  | smaller
  | contains
  | present
  deriving DecidableEq

namespace Operator

/-- The name of an operator in flow files. -/
def name : Operator → String
  | .equal => "eq"
  | .different => "neq"
  | .greater => "gt"
  | .smaller => "lt"
  | .contains => "contains"
  | .present => "exists"

/-- All operators, in the order in which messages list them. -/
def all : List Operator :=
  [.equal, .different, .greater, .smaller, .contains, .present]

/-- Whether a found value satisfies the operator. -/
def holds (operator : Operator) (found expected : Value) : Except Obstacle Bool :=
  match operator with
  | .present => .ok !found.isNull
  | .equal => .ok (found.sameStrict expected)
  | .different => .ok !found.sameStrict expected
  | .greater => .ok (expected.less found)
  | .smaller => .ok (found.less expected)
  | .contains =>
    match found with
    | .text s => if expected.isNull then .ok false else expected.shown?.map (Text.contains s)
    | _ => .ok false

end Operator

/-- A question about the value at a path. -/
structure Guard where
  field : String
  operator : Operator
  expected : Value

/-- Whether a guard holds in a context. -/
def Guard.holds (guard : Guard) (context : Context) : Except Obstacle Bool :=
  match context.follow? guard.field with
  | some found => guard.operator.holds found guard.expected
  | none => .ok false

end FlowDesk
