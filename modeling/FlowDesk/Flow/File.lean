/-
# Flow files

A flow file holds one flow to a line, in the order in which triggers are
tried. Blank lines are skipped, and an id may occur only once.
-/

import FlowDesk.Flow.Reader
import FlowDesk.Flow.Writer
import FlowDesk.Json.Reader
import FlowDesk.Json.Writer
import FlowDesk.Text.Lines
import FlowDesk.Text.Quoted

namespace FlowDesk.Flow

/-- Why a flow file cannot be loaded. -/
inductive FileError where
  | notJson (error : Json.ReadError)
  | notFlow (error : ReadError)
  | duplicate (path : String) (line : Nat) (id : String)
  | empty (path : String)

/-- The sentence that reports a number with too many digits, a repeated id, or a
file without flows. -/
def FileError.message? : FileError → Option String
  | .notJson (.longNumber digits) => some (Json.ReadError.longNumber digits).message
  | .duplicate path line id => some s!"{path}:{line}: duplicate flow id {Text.quoted id}"
  | .empty path => some s!"No flow found in {path}"
  | _ => none

/-- The flow on a line. -/
def ofLine (line : String) : Except FileError Flow :=
  match Json.ofText line with
  | .error error => .error (.notJson error)
  | .ok v => match read v with
    | .ok flow => .ok flow
    | .error error => .error (.notFlow error)

/-- The lines of a file that are not blank, trimmed and with their numbers. -/
def numberedLines (text : String) : List (Nat × String) :=
  ((Text.fileLines text).zipIdx 1).filterMap fun (line, number) =>
    let trimmed := Text.trim line
    if trimmed = "" then none else some (number, trimmed)

/-- Read flows line by line, given the ids of earlier lines. -/
def loadLines (path : String) (seen : List String) :
    List (Nat × String) → Except FileError (List Flow)
  | [] => .ok []
  | (number, line) :: rest =>
    match ofLine line with
    | .error error => .error error
    | .ok flow =>
      if seen.contains flow.id then .error (.duplicate path number flow.id)
      else match loadLines path (flow.id :: seen) rest with
        | .ok flows => .ok (flow :: flows)
        | .error error => .error error

/-- Every flow of a file, in the order of its lines. -/
def loadAll (path text : String) : Except FileError (List Flow) :=
  loadLines path [] (numberedLines text)

/-- The first flow of a file. -/
def loadFirst (path text : String) : Except FileError Flow :=
  match numberedLines text with
  | (_, line) :: _ => ofLine line
  | [] => .error (.empty path)

/-- The text that a flow is saved as: one line. -/
def saved (flow : Flow) : String :=
  Json.text flow.value ++ "\n"

/-- The text that a flow is saved as, unless it is nested too deeply or holds a whole
number that cannot be written. -/
def save? (flow : Flow) : Option String :=
  if flow.output?.isSome && flow.value.hasShortWholes then some flow.saved else none

end FlowDesk.Flow
