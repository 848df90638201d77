import FlowDesk.Address.Basic
import FlowDesk.Address.Host
import FlowDesk.Address.Label
import FlowDesk.Address.Label.Joined
import FlowDesk.Address.Label.Table
import FlowDesk.Address.Punycode
import FlowDesk.Book.Basic
import FlowDesk.Book.Seed
import FlowDesk.Book.Sorting
import FlowDesk.Bundled.Flows
import FlowDesk.Bundled.Regions
import FlowDesk.Bundled.Seed
import FlowDesk.Calendar.Date
import FlowDesk.Calendar.Iso
import FlowDesk.Calendar.Moment
import FlowDesk.Calendar.Naming
import FlowDesk.Calendar.Region
import FlowDesk.Calendar.Seasons
import FlowDesk.Catalogue
import FlowDesk.CommandLine.Arguments
import FlowDesk.CommandLine.Command
import FlowDesk.Config
import FlowDesk.Desk
import FlowDesk.Desk.Opening
import FlowDesk.Distinct
import FlowDesk.FileName
import FlowDesk.Flow.Basic
import FlowDesk.Flow.Equal
import FlowDesk.Flow.File
import FlowDesk.Flow.Lint
import FlowDesk.Flow.Reader
import FlowDesk.Flow.Writer
import FlowDesk.Form.Basic
import FlowDesk.Form.Scalar
import FlowDesk.Guard
import FlowDesk.Json.Encoding
import FlowDesk.Json.Reader
import FlowDesk.Json.Writer
import FlowDesk.Main
import FlowDesk.Number.Binary64
import FlowDesk.Number.Numeral
import FlowDesk.Number.Power
import FlowDesk.Number.Shortest
import FlowDesk.Operation.Basic
import FlowDesk.Operation.Clients
import FlowDesk.Operation.Documentation
import FlowDesk.Operation.Meetings
import FlowDesk.Operation.News
import FlowDesk.Operation.Parameter
import FlowDesk.Operation.Rehearsal
import FlowDesk.Operation.Standard
import FlowDesk.Proofs.Book.Chronology
import FlowDesk.Proofs.Book.Isolation
import FlowDesk.Proofs.Book.Merging
import FlowDesk.Proofs.Book.Order
import FlowDesk.Proofs.Book.Sound
import FlowDesk.Proofs.Book.StableSort
import FlowDesk.Proofs.Calendar.Days
import FlowDesk.Proofs.Calendar.Eras
import FlowDesk.Proofs.Calendar.Gap
import FlowDesk.Proofs.Calendar.Midnight
import FlowDesk.Proofs.Calendar.Return
import FlowDesk.Proofs.Calendar.Within
import FlowDesk.Proofs.Calendar.Written
import FlowDesk.Proofs.Desk.Answers
import FlowDesk.Proofs.Desk.Entry
import FlowDesk.Proofs.Desk.Interleaving
import FlowDesk.Proofs.Desk.Isolation
import FlowDesk.Proofs.Desk.Selection
import FlowDesk.Proofs.Desk.Unheard
import FlowDesk.Proofs.Flow.File
import FlowDesk.Proofs.Flow.Loading
import FlowDesk.Proofs.Flow.Output
import FlowDesk.Proofs.Flow.Reading
import FlowDesk.Proofs.Flow.Writing
import FlowDesk.Proofs.Form.Valid
import FlowDesk.Proofs.Guard
import FlowDesk.Proofs.Guard.Equality
import FlowDesk.Proofs.Guard.Ordering
import FlowDesk.Proofs.Json.Breaks
import FlowDesk.Proofs.Json.Numbers
import FlowDesk.Proofs.Json.Strings
import FlowDesk.Proofs.Json.Values
import FlowDesk.Proofs.Number.Rounding
import FlowDesk.Proofs.Number.Shortest
import FlowDesk.Proofs.Operation.Changes
import FlowDesk.Proofs.Operation.Drafting
import FlowDesk.Proofs.Operation.Editing
import FlowDesk.Proofs.Operation.Extraction
import FlowDesk.Proofs.Operation.Forwarding
import FlowDesk.Proofs.Operation.Isolation
import FlowDesk.Proofs.Operation.Listing
import FlowDesk.Proofs.Operation.Namesakes
import FlowDesk.Proofs.Operation.Naming
import FlowDesk.Proofs.Operation.Narrowing
import FlowDesk.Proofs.Operation.Overrun
import FlowDesk.Proofs.Operation.Promises
import FlowDesk.Proofs.Operation.Ranges
import FlowDesk.Proofs.Operation.Replies
import FlowDesk.Proofs.Operation.Searching
import FlowDesk.Proofs.Operation.Showing
import FlowDesk.Proofs.Run.Assignment
import FlowDesk.Proofs.Run.Budget
import FlowDesk.Proofs.Run.Course
import FlowDesk.Proofs.Run.Failure
import FlowDesk.Proofs.Run.History
import FlowDesk.Proofs.Run.Interleaving
import FlowDesk.Proofs.Run.Log
import FlowDesk.Proofs.Run.Reached
import FlowDesk.Proofs.Run.Return
import FlowDesk.Proofs.Run.Soundness
import FlowDesk.Proofs.Run.Trace
import FlowDesk.Proofs.Table
import FlowDesk.Proofs.Template
import FlowDesk.Proofs.Template.Scan
import FlowDesk.Proofs.Text.Blank
import FlowDesk.Proofs.Text.Case
import FlowDesk.Proofs.Text.Lines
import FlowDesk.Proofs.Text.NameRun
import FlowDesk.Proofs.Value.Path
import FlowDesk.Proofs.Value.Shape
import FlowDesk.Proofs.Value.Writable
import FlowDesk.Proofs.Web.Access
import FlowDesk.Run.Call
import FlowDesk.Run.Context
import FlowDesk.Run.Event
import FlowDesk.Run.Intake
import FlowDesk.Run.Log
import FlowDesk.Run.Progress
import FlowDesk.Run.Report
import FlowDesk.Run.Together
import FlowDesk.Run.Walk
import FlowDesk.Table
import FlowDesk.Template
import FlowDesk.Text.Blank
import FlowDesk.Text.Case
import FlowDesk.Text.Case.Table
import FlowDesk.Text.Digit
import FlowDesk.Text.Lines
import FlowDesk.Text.NameRun
import FlowDesk.Text.Percent
import FlowDesk.Text.Printable
import FlowDesk.Text.Quoted
import FlowDesk.Text.Split
import FlowDesk.Text.Utf8
import FlowDesk.Text.Word
import FlowDesk.Value.Basic
import FlowDesk.Value.Compare
import FlowDesk.Value.Depth
import FlowDesk.Value.Finite
import FlowDesk.Value.Path
import FlowDesk.Value.Shown
import FlowDesk.Value.Writable
import FlowDesk.Web
import FlowDesk.Web.Call
import FlowDesk.Web.Route
