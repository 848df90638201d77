/-
# Reading flows

A flow is read from raw data. A step takes its key as its id when it gives
none, and its id as its name. Everything that does not fit is reported with
its place.
-/

import FlowDesk.Flow.Basic
import FlowDesk.Form.Scalar

namespace FlowDesk

namespace Guard

/-- The operators by name. -/
def operatorChoices : List (String × Operator) :=
  Operator.all.map fun operator => (operator.name, operator)

/-- Read a guard. -/
def read (v : Value) : Checked Guard :=
  match v with
  | .object fields =>
    mk <$> Checked.required fields "field" Checked.text
      <*> Checked.required fields "operator" (Checked.choice operatorChoices)
      <*> Checked.optional fields "value" .null Checked.anything
  | v => .mismatch (.notRecord "Condition") v

end Guard

namespace Trigger

/-- The kinds of trigger by name. -/
def kindChoices : List (String × TriggerKind) :=
  [("keyword", .keyword), ("intent", .intent)]

/-- Read a trigger. -/
def read (v : Value) : Checked Trigger :=
  match v with
  | .object fields =>
    mk <$> Checked.optional fields "type" .keyword (Checked.choice kindChoices)
      <*> Checked.optional fields "keywords" [] Checked.texts
  | v => .mismatch (.notRecord "Trigger") v

end Trigger

namespace Step

/-- The tags of steps. -/
def tags : List String := ["operation", "branch", "response"]

/-- A successor: a text, or null for none. -/
def successor (fields : Fields) (name : String) : Checked (Option String) :=
  Checked.optional fields name none (Checked.nullable Checked.text)

/-- A step's fields with its name filled in from its id. -/
def withName (fields : Fields) : Fields :=
  match fields.at? "name" with
  | some name =>
    if name.truthy then fields
    else fields.put "name" ((fields.at? "id").getD (.text ""))
  | none => fields.put "name" ((fields.at? "id").getD (.text ""))

/-- Read the action of a step with a known tag. -/
def readAction (tag : String) (fields : Fields) : Checked Action :=
  if tag = "operation" then
    Action.operation <$> Checked.required fields "operation" Checked.text
      <*> Checked.optional fields "args" [] Checked.fields
      <*> Checked.optional fields "variables" [] Checked.texts
      <*> successor fields "on_success"
      <*> successor fields "on_failure"
  else if tag = "branch" then
    Action.branch <$> Checked.required fields "condition" Guard.read
      <*> successor fields "on_true"
      <*> successor fields "on_false"
  else
    Action.response <$> Checked.optional fields "response" "" Checked.text

/-- Read the fields of a step with a known tag. -/
def readFields (tag : String) (given : Fields) : Checked Step :=
  let fields := withName given
  mk <$> Checked.required fields "id" Checked.text
    <*> Checked.required fields "name" Checked.text
    <*> successor fields "next_step"
    <*> readAction tag fields

/-- A tag as it is reported; one that cannot be written is described. -/
def reportedTag (tag : Value) : String :=
  match tag.shown? with
  | .ok text => text
  | .error _ => "<unprintable " ++ tag.kindName ++ " object>"

/-- Read a step: its tag decides which fields it has. -/
def read (v : Value) : Checked Step :=
  match v with
  | .object fields =>
    let unknown (tag : Value) : Checked Step :=
      .mismatch (.unknownTag (reportedTag tag) "type" tags) v
    match Table.at? fields "type" with
    | none => .mismatch (.noTag "type") v
    | some (.text tag) =>
      if tags.contains tag then (readFields tag fields).within (.field tag)
      else unknown (.text tag)
    | some tag => unknown tag
  | v => .mismatch .noFields v

end Step

namespace Flow

/-- Why raw data is no flow: something that should hold members does not, or
fields do not fit. -/
inductive ReadError where
  | noMember (kind member : String)
  | invalid (problems : List Problem)

/-- A raw step with its key as its id, unless it gives an id of its own. -/
def withKey (key : String) : Value → Value
  | .object fields => .object (Table.putAll [("id", .text key)] fields)
  | v => v

/-- Raw steps, each with its key as its id. -/
def withKeys (steps : Fields) : List (String × Value) :=
  steps.map fun entry => (entry.1, withKey entry.1 entry.2)

/-- Read the fields of a flow. -/
def readFields (fields : Fields) : Checked Flow :=
  let steps (v : Value) : Checked (Table Step) :=
    (Checked.fields v).andThen (Checked.entries Step.read)
  mk <$> Checked.required fields "id" Checked.text
    <*> Checked.optional fields "name" "" Checked.text
    <*> Checked.optional fields "description" "" Checked.text
    <*> Checked.optional fields "trigger" Trigger.none Trigger.read
    <*> Checked.required fields "initial_step" Checked.text
    <*> Checked.optional fields "steps" [] steps

/-- Read a flow from raw data. -/
def read (v : Value) : Except ReadError Flow :=
  match v with
  | .object fields =>
    match (Table.at? fields "steps").getD (.object []) with
    | .object steps =>
      match readFields (Table.put fields "steps" (.object (withKeys steps))) with
      | .valid flow => .ok flow
      | .invalid problems => .error (.invalid problems)
    | other => .error (.noMember other.kindName "items")
  | v => .error (.noMember v.kindName "get")

end Flow

end FlowDesk
