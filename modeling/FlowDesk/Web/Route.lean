/-
# Routes

Where a request goes, and what is found there. The address of a request may
leave out where the desk is. Whoever asks for a path with slashes at its end
is sent to the path without them.
-/

import FlowDesk.Address.Basic
import FlowDesk.Text.Percent

namespace FlowDesk.Web

/-- The address of the desk. -/
def home : Address := ⟨"http", "", "localhost", none, "/", none, none⟩

/-- The address that a text leads to from the desk. -/
def target (text : String) : Except Address.Error Address := do
  let address ← Address.read text
  address.fromBase home

/-- The path of an address. Escapes are resolved where the request is sent and
again where it is received. -/
def plainPath (address : Address) : String :=
  let path := Text.Percent.unescape (Text.Percent.unescape address.path)
  if path = "" then "/" else path

/-- What a request asks for. -/
inductive Route where
  | health
  | flows
  | flow (id : String)
  | operations
  | answer
  deriving DecidableEq

/-- The method with which something is asked for. -/
def Route.method : Route → String
  | .answer => "POST"
  | _ => "GET"

/-- The id of the flow that a path asks for. -/
def flowOfPath? (path : String) : Option String :=
  let stem := "/api/flows/".toList
  let cs := path.toList
  if stem.isPrefixOf cs then
    let id := cs.drop stem.length
    if id.isEmpty || id.contains '/' then none else some (String.ofList id)
  else none

/-- What is found at a path, if anything. One line break after a whole path does
not count. -/
def routeAt? (path : String) : Option Route :=
  let is (whole : String) : Bool := path = whole || path = whole ++ "\n"
  if is "/health" then some .health
  else if is "/api/flows" then some .flows
  else if is "/api/capabilities" then some .operations
  else if is "/api/agent/flow" then some .answer
  else (flowOfPath? path).map .flow

/-- The characters of a path that a hint to go elsewhere keeps. -/
def isKeptInHint (c : Char) : Bool :=
  c.isAlphanum || "-._~:/%#?=@[]!$&\x27()*+,;".toList.contains c

/-- What is found at a path, or else where the path without the slashes at its
end leads, if anything is found there. -/
def route? (path : String) : Option Route :=
  let shorter := (path.toList.reverse.dropWhile (· = '/')).reverse
  match routeAt? path with
  | some route => some route
  | none =>
    (routeAt? (String.ofList shorter)).bind fun _ =>
      match target (String.ofList (Text.Percent.escape isKeptInHint shorter)) with
      | .ok address => routeAt? (plainPath address)
      | .error _ => none

end FlowDesk.Web
