/-
# Operations

What a desk can do for a flow. An operation has a name, checks the arguments
it is given and acts for a caller, whose book is the only one it sees. Unknown
names and unfit arguments come back as results that say so, like every other
failure a flow is meant to handle.
-/

import FlowDesk.Distinct
import FlowDesk.Form.Scalar
import FlowDesk.Run.Progress
import FlowDesk.Value.Shown

namespace FlowDesk

/-- What an operation does with a state outside the book. -/
abbrev Act (σ : Type) := σ → Delivery × σ

/-- An operation. -/
structure Operation (σ : Type) where
  name : String
  description : String
  parameters : Value
  /-- The act for a caller, if the arguments fit. -/
  prepare : Value → Checked (Value → Act σ)

namespace Answer

/-- The result of an operation that did not succeed. -/
def failure (error : String) (extra : Fields) : Answer :=
  .value (.object (("success", .bool false) :: ("error", .text error) :: extra))

/-- The result of an operation that succeeded. -/
def success (fields : Fields) : Answer :=
  .value (.object (("success", .bool true) :: fields))

/-- The answer of an operation that may meet an accident. -/
def ofExcept : Except Fault Answer → Answer
  | .ok answer => answer
  | .error accident => .fault accident

end Answer

namespace Problem

/-- A problem in a sentence about arguments. -/
def sentence (problem : Problem) : String :=
  (if problem.placeText = "" then "args" else problem.placeText) ++ ": " ++
    problem.mismatch.message

end Problem

/-- Operations with different names. -/
structure Operations (σ : Type) where
  all : List (Operation σ)
  distinct : (all.map Operation.name).Nodup

namespace Operations

variable {σ : Type}

/-- The operation with a name. -/
def find? (operations : Operations σ) (name : String) : Option (Operation σ) :=
  operations.all.find? fun operation => operation.name == name

/-- The names, in the order of the table. -/
def names (operations : Operations σ) : List String :=
  operations.all.map Operation.name

/-- The table of some operations, or the name that two of them share. -/
def ofList (operations : List (Operation σ)) : Except String (Operations σ) :=
  match hrepeated : Distinct.repeated? (operations.map Operation.name) with
  | some name => .error name
  | none => .ok ⟨operations, Distinct.nodup_of_repeated?_eq_none _ hrepeated⟩

/-- The sentence that refuses two operations with one name. -/
def duplicateMessage (name : String) : String := s!"duplicate capability name: {name}"

/-- The answer to a call of an operation that is not in the table. -/
def notImplemented (name : String) : Answer :=
  .failure s!"operation not implemented: {name}" []

/-- The answer to a call whose arguments do not fit. -/
def unfit (name : String) (problems : List Problem) : Answer :=
  let sentences := "; ".intercalate (problems.map Problem.sentence)
  .failure s!"invalid arguments for {name}: {sentences}" []

/-- Run the operation that a call names. -/
def handler (operations : Operations σ) : Handler σ := fun call state =>
  match operations.find? call.operation with
  | none => (.now (notImplemented call.operation), state)
  | some operation =>
    match operation.prepare call.args with
    | .valid act => act call.caller state
    | .invalid problems => (.now (unfit call.operation problems), state)

/-- The operations as data, in the order of the table. -/
def description (operations : Operations σ) : Value :=
  .list (operations.all.map fun operation => .object
    [ ("name", .text operation.name),
      ("description", .text operation.description),
      ("parameters", operation.parameters) ])

end Operations

end FlowDesk
