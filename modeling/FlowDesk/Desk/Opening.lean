/-
# Opening a desk

A desk is opened from its configuration: its flows and its seed are read from
files, of which the seed may be missing and the flows too. A missing flow file
is reported by the plain form of its name, a missing seed by the name given.
-/

import FlowDesk.Book.Seed
import FlowDesk.Calendar.Naming
import FlowDesk.Config
import FlowDesk.Desk
import FlowDesk.FileName
import FlowDesk.Flow.File
import FlowDesk.Operation.Standard

namespace FlowDesk

/-- Why a desk cannot be opened. -/
inductive OpenError where
  | region (name : String) (error : Calendar.Region.NameError)
  | longName (path : String)
  | seed (error : Book.SeedError)
  | flows (error : Flow.FileError)
  | duplicateFlow (id : String)
  | budget

/-- The sentence that says why a desk cannot be opened. -/
def OpenError.message : OpenError → String
  | .region name error => error.message name
  | .longName path => FileName.tooLongMessage path
  | .seed _ => "the seed data cannot be used"
  | .flows error => error.message?.getD "the flow file cannot be read"
  | .duplicateFlow id => Catalogue.duplicateMessage id
  | .budget => budgetMessage

/-- Whatever holds files: the text of the file at a path, if there is one. -/
abbrev Files := String → Option String

/-- The text of the file at a path, if there is one. -/
def Files.look (files : Files) (path : String) : Except OpenError (Option String) :=
  if FileName.isTooLong path then .error (.longName path) else .ok (files path)

namespace Catalogue

/-- The catalogue of a flow file, and what is reported about it. A missing
file holds no flows. -/
def ofFile (files : Files) (path : String) (known : Option (List String)) :
    Except OpenError (Catalogue × List String) := do
  let plain := FileName.plain path
  match ← files.look path with
  | none => return (empty, [missingMessage plain])
  | some text =>
    match Flow.loadAll plain text with
    | .error error => .error (.flows error)
    | .ok flows =>
      match ofFlows flows with
      | .error id => .error (.duplicateFlow id)
      | .ok catalogue => return (catalogue, catalogue.warnings known)

end Catalogue

namespace Book

/-- The sentence that reports a seed file that is not there. -/
def missingMessage (path : String) : String :=
  s!"Seed data {path} not found — starting with an empty backend"

/-- The book of a seed file, and what is reported about it. A missing file is
an empty book. -/
def ofFile (files : Files) (path : String) (zone : Calendar.Zone) :
    Except OpenError (Book × List String) := do
  match ← files.look path with
  | none => return (empty, [missingMessage path])
  | some text =>
    match ofText zone text with
    | .error error => .error (.seed error)
    | .ok book => return (book, [])

end Book

namespace Desk

variable {σ : Type}

/-- Open a desk, with an atlas, a clock and a news service. The warnings of the
book come before those of the flows. -/
def fromConfig (config : Config) (files : Files) (atlas : Calendar.Atlas)
    (clock : Calendar.Moment) (fetch : News.Fetcher σ) :
    Except OpenError (Desk σ × List String) := do
  let region ← (atlas.named config.timezone).mapError (.region config.timezone)
  let (book, bookWarnings) ← Book.ofFile files config.seedPath (.region region)
  let around : Surroundings σ := ⟨book, region, clock, config.newsAddress, fetch⟩
  let operations := around.operations
  let (catalogue, flowWarnings) ←
    Catalogue.ofFile files config.flowsPath (some operations.names)
  match budget? config.maxSteps with
  | none => .error .budget
  | some budget =>
    return (⟨catalogue, operations, budget, config.flowTimeout, config.debug⟩,
      bookWarnings ++ flowWarnings)

end Desk

end FlowDesk
