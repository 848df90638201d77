/-
# Requests

A request over the web: an address, headers and maybe a body. Its headers show
a key and the number of a caller; its body is JSON and should hold a message. JSON
may still be more than the desk reads: its numbers may be too long, or its lists
and objects nested too deeply.
-/

import FlowDesk.Form.Scalar
import FlowDesk.Json.Reader
import FlowDesk.Number.Numeral
import FlowDesk.Text.Split

namespace FlowDesk.Web

/-- The body of a request: a text that is JSON, even if it is more than can be read. -/
structure Body where
  text : String
  isJson : Json.isJson text = true

/-- A request. The address may leave out where the desk is. -/
structure Call where
  method : String
  address : String
  headers : List (String × String)
  body : Option Body

/-- The value of a header; names are compared without regard to case. -/
def Call.header? (call : Call) (name : String) : Option String :=
  (call.headers.find? fun header => Text.lower header.1 == name).map Prod.snd

/-- The key that a request shows: what follows the first space of its
authorization, if that is of the bearer kind. -/
def Call.key? (call : Call) : Option String :=
  (call.header? "authorization").bind fun authorization =>
    let cs := authorization.toList
    let scheme := String.ofList (cs.takeWhile (· ≠ ' '))
    let key := Text.trim (String.ofList ((cs.dropWhile (· ≠ ' ')).drop 1))
    if Text.lower scheme = "bearer" && key ≠ "" then some key else none

/-- Whether a type of content is JSON. -/
def isJsonType (contentType : String) : Bool :=
  let beforeParameters := String.ofList (contentType.toList.takeWhile (· ≠ ';'))
  match (Text.slashParts (Text.lower (Text.trim beforeParameters))) with
  | [kind, form] => kind = "application" &&
      (form = "json" || "+json".toList.isSuffixOf form.toList)
  | _ => false

/-- The body of a request as the desk understands it: a body that is said to be
something else than JSON is its text. -/
def Call.content (call : Call) : Except Json.ReadError (Option Value) :=
  match call.body with
  | none => .ok none
  | some body =>
    match (call.header? "content-type").filter (· ≠ "") with
    | none => (Json.ofText body.text).map some
    | some contentType =>
      if isJsonType contentType then (Json.ofText body.text).map some
      else .ok (some (.text body.text))

/-- A message as the body of a request holds it. -/
structure Message where
  message : String
  conversation : String
  flowId : Option String

/-- Read the body of a request; null is no body. -/
def Message.read (body : Option Value) : Checked Message :=
  match body with
  | some (.object fields) =>
    mk <$> Checked.required fields "message" Checked.text
      <*> Checked.optional fields "conversation_id" "" Checked.text
      <*> Checked.optional fields "flow_id" none (Checked.nullable Checked.text)
  | none => .mismatch .missing .null
  | some .null => .mismatch .missing .null
  | some v => .mismatch .noFields v

end FlowDesk.Web
