/-
# The program

The command line of a desk: `run` answers a message, `flows` lists the flows.
Settings come from environment variables. Flows and seed are read from the
files they name, the bundled ones unless others are named; the regions are those of
the bundled atlas. This program does not reach out to a news service and does not
serve the web itself.
-/

import FlowDesk.Bundled.Flows
import FlowDesk.Bundled.Regions
import FlowDesk.Bundled.Seed
import FlowDesk.CommandLine.Command
import FlowDesk.Desk.Opening
import Std.Time.DateTime.Timestamp

namespace FlowDesk.Program

/-- The name under which the bundled flows are found. -/
def bundledFlows : String := "bundled flows"

/-- The name under which the bundled seed is found. -/
def bundledSeed : String := "bundled seed"

/-- The day on which the count of seconds of system clocks begins. -/
def epoch : Calendar.Date := ⟨1970, 1, 1⟩

/-- The moment some nanoseconds after the epoch. -/
def momentAfterEpoch? (nanoseconds : Int) : Option Calendar.Moment :=
  let ticks := epoch.dayNumber * Calendar.fullDay + nanoseconds / 1000
  (Calendar.Clock.ofTicks? ticks).map fun clock => ⟨clock, .constant 0, false⟩

/-- A news service that is out of reach. -/
def noNews : News.Fetcher Unit := fun _ state => (.unreachable, state)

/-- The environment variables that give settings. -/
def environment : IO (List (String × String)) := do
  let found ← Config.names.mapM fun name => do
    let given ← IO.getEnv name.toUpper
    return given.map fun text => (name, text)
  return found.filterMap id

/-- The text at a path: a bundled one, or that of a file, if there is one. -/
def textAt (path : String) : IO (Option String) := do
  if path = bundledFlows then return some Bundled.flowsText
  else if path = bundledSeed then return some Bundled.seedText
  else try
    let text ← IO.FS.readFile path
    return some text
  catch _ => return none

/-- Report why the program goes no further. -/
def giveUp (message : String) : IO UInt32 := do
  IO.eprintln message
  return 1

/-- Carry out a command with some settings. -/
def carryOut (config : Config) (command : CommandLine.Command) : IO UInt32 := do
  let flows ← textAt config.flowsPath
  let seed ← textAt config.seedPath
  let files (path : String) : Option String :=
    if path = config.flowsPath then flows else if path = config.seedPath then seed else none
  let now ← Std.Time.Timestamp.now
  match momentAfterEpoch? now.toNanosecondsSinceUnixEpoch.val with
  | none => giveUp "the clock is outside the calendar"
  | some clock =>
    match Desk.fromConfig config files Bundled.atlas clock noNews with
    | .error error => giveUp error.message
    | .ok (desk, warnings) =>
      for warning in warnings do
        IO.eprintln warning
      match (CommandLine.carryOut desk command ()).1 with
      | .error _ => giveUp "there is nothing to show"
      | .ok shown =>
        IO.print shown.out
        IO.eprint shown.err
        return UInt32.ofNat shown.code

end FlowDesk.Program

open FlowDesk FlowDesk.Program in
/-- Understand the command line and carry it out. -/
def main (words : List String) : IO UInt32 := do
  match CommandLine.read words with
  | .error .help =>
    IO.println "commands: run MESSAGE --caller ID [--flow ID] [--conversation ID] [--json]; flows"
    return 0
  | .error .usage =>
    IO.eprintln "usage: run MESSAGE --caller ID [--flow ID] [--conversation ID] [--json] | flows"
    return 2
  | .ok command =>
    match Config.read (.standard bundledFlows bundledSeed) (← environment) [] with
    | .invalid problems =>
      giveUp ("\n".intercalate (problems.map fun problem =>
        problem.placeText ++ ": " ++ problem.mismatch.message))
    | .valid config => carryOut config command
