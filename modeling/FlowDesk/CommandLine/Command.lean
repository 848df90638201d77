/-
# Commands

The commands of the program: run the flow that handles a message, list the
flows, or serve them on the web.
-/

import FlowDesk.CommandLine.Arguments
import FlowDesk.Desk
import FlowDesk.Json.Writer

namespace FlowDesk.CommandLine

/-- What the program is asked to do. -/
inductive Command where
  | run (message : String) (caller : Int) (flow : Option String) (conversation : String)
      (json : Bool)
  | flows
  | serve

/-- The options of the command that runs a flow. -/
def runSwitches : List Switch :=
  [⟨"--caller", true⟩, ⟨"--flow", true⟩, ⟨"--conversation", true⟩, ⟨"--json", false⟩]

/-- Whether the value of an option fits: a caller must be a whole number. -/
def fits (name value : String) : Bool :=
  name ≠ "--caller" || (Numeral.integer? value).isSome

/-- Understand the words after the command that runs a flow. -/
def readRun (words : List String) : Except Stop Command := do
  let given ← parse runSwitches true fits words
  let value (name : String) : Option String :=
    (given.options.find? fun entry => entry.1 == name).map Prod.snd
  match given.positional, (value "--caller").bind Numeral.integer? with
  | some message, some caller =>
    return .run message caller (value "--flow") ((value "--conversation").getD "")
      (value "--json").isSome
  | _, _ => .error .usage

/-- Understand the words after a command that takes none. -/
def readPlain (command : Command) (words : List String) : Except Stop Command := do
  let _ ← parse [] false (fun _ _ => true) words
  return command

/-- Understand a command and the words after it. -/
def readCommand (word : String) (rest : List String) : Except Stop Command :=
  if word = "run" then readRun rest
  else if word = "flows" then readPlain .flows rest
  else if word = "serve" then readPlain .serve rest
  else .error .usage

/-- Understand a command line. What stands before the command is an option of
the program itself, and only help is one; others are too many, but what comes
after them may still ask for help. -/
def read : List String → Except Stop Command
  | [] => .error .usage
  | "--" :: _ => .error .usage
  | word :: rest =>
    match understand [] word with
    | .ok (.option _ none) => .error .help
    | .ok (.help attached) => .error (if onlyHelp attached then .help else .usage)
    | .ok (.plain _) => readCommand word rest
    | .ok .unknown => match read rest with
      | .error .help => .error .help
      | _ => .error .usage
    | _ => .error .usage

/-- What a command shows and the code it ends with. -/
structure Shown where
  code : Nat
  out : String
  err : String

/-- Why there is nothing to show. -/
inductive Silence where
  /-- An answer never comes. -/
  | unanswered
  /-- The response is nested too deeply to be given out. -/
  | tooDeep
  /-- The response cannot be written. -/
  | unwritten (obstacle : Obstacle)
  /-- The message gets no response. -/
  | rejected (rejection : Rejection)
  /-- Serving is not a matter of showing. -/
  | serving

/-- The response to a message, as text or as data. -/
def showResponse (json : Bool) (response : Response) : Except Silence Shown :=
  let code := if response.success then 0 else 1
  if json then match response.output? with
    | some data => match Json.indentedText? data with
      | .ok text => .ok ⟨code, text ++ "\n", ""⟩
      | .error obstacle => .error (.unwritten obstacle)
    | none => .error .tooDeep
  else if response.success then .ok ⟨code, response.text.getD "" ++ "\n", ""⟩
  else .ok ⟨code, "", "Error: " ++ response.error.getD "" ++ "\n"⟩

/-- The width of the column of flow ids. -/
def idWidth : Nat := 24

/-- The line for a flow. -/
def flowLine (flow : Flow) : String :=
  let padding := "".pushn ' ' (idWidth - flow.id.length)
  let keywords := ", ".intercalate flow.trigger.keywords
  s!"{flow.id}{padding} {flow.name}  [{keywords}]\n"

/-- The list of flows. -/
def showFlows (catalogue : Catalogue) : Shown :=
  ⟨0, String.join (catalogue.flows.map flowLine), ""⟩

/-- Carry out a command at a desk. -/
def carryOut {σ : Type} (desk : Desk σ) (command : Command) (state : σ) :
    Except Silence Shown × σ :=
  match command with
  | .flows => (.ok (showFlows desk.catalogue), state)
  | .serve => (.error .serving, state)
  | .run message caller flow conversation json =>
    match desk.handle ⟨.text message, .int caller, .text conversation, .ofText? flow⟩ state with
    | (.ok (some response), next) => (showResponse json response, next)
    | (.ok none, next) => (.error .unanswered, next)
    | (.error rejection, next) => (.error (.rejected rejection), next)

end FlowDesk.CommandLine
