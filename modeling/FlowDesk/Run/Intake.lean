/-
# Reading a context

The context that a run starts from, read from raw data. Every field may be
left out.
-/

import FlowDesk.Form.Scalar
import FlowDesk.Run.Context

namespace FlowDesk

/-- Read a caller: a text is a name, anything else must be a whole number. -/
def Caller.read : Value → Checked Caller
  | .text s => .valid (.name s)
  | v =>
    match Checked.whole v with
    | .valid n => .valid (.number n)
    | .invalid problems =>
      let asNumber : Checked (Caller → Caller) := .invalid problems
      let asName : Checked Caller := .mismatch .notText v
      .both (asNumber.within (.field "int")) (asName.within (.field "str"))

namespace Context

/-- A context without a message. -/
def blank : Context :=
  { message := "", caller := .number 0, conversation := "", flowId := "", flowName := "",
    result := none, response := none, bindings := [] }

/-- Read the fields of a context. -/
def read (fields : Fields) : Checked Context :=
  let text (name : String) := Checked.optional fields name "" Checked.text
  mk <$> text "message"
    <*> Checked.optional fields "caller_id" (.number 0) Caller.read
    <*> text "conversation_id"
    <*> text "flow_id"
    <*> text "flow_name"
    <*> Checked.optional fields "result" none (Checked.nullable Checked.fields)
    <*> Checked.optional fields "response" none (Checked.nullable Checked.text)
    <*> Checked.optional fields "variables" [] Checked.fields

end Context

end FlowDesk
