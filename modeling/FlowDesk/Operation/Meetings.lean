/-
# Operations on meetings

An advisor's meetings in a range of dates or with a client, and the data for
the dialogs that confirm a new meeting or a changed one. Nothing is written
here: the advisor has the last word. Times are shown in the desk's region.
-/

import FlowDesk.Book.Basic
import FlowDesk.Calendar.Iso
import FlowDesk.Operation.Basic
import FlowDesk.Operation.Parameter

namespace FlowDesk

open Calendar

/-- The moment in a region; outside the calendar there is none. -/
def Calendar.Moment.localIn (moment : Moment) (region : Region) : Except Fault Moment :=
  match moment.inRegion? region with
  | some shown => .ok shown
  | none => .error .dateOutOfRange

namespace Meeting

/-- The three fields that show when a meeting starts. -/
def timeFields (start : Moment) : Fields :=
  [ ("date_time", .text (Iso.text start)),
    ("formatted_date", .text start.dateText),
    ("formatted_time", .text start.timeText) ]

/-- The client of a meeting as it is shown with it. -/
def clientInfo (book : Book) (caller : Value) (meeting : Meeting) : Value :=
  if meeting.client.isNull then .null
  else match book.client? caller meeting.client with
    | some client => .object
        [("id", client.id), ("name", .text client.fullName), ("email", client.email)]
    | none => .null

/-- A meeting as it is shown in a region. -/
def shown (book : Book) (region : Region) (caller : Value) (meeting : Meeting) :
    Except Fault Fields := do
  let start ← meeting.start.localIn region
  return [("id", meeting.id), ("subject", meeting.subject)] ++ timeFields start ++
    [ ("duration", meeting.duration),
      ("location", meeting.location),
      ("notes", meeting.notes),
      ("client", clientInfo book caller meeting) ]

/-- The text of a field that is shown. -/
def fieldText (fields : Fields) (name : String) : String :=
  ((fields.at? name).getD .null).shown

/-- The line for a meeting that is shown. -/
def line (fields : Fields) : String :=
  let client := match fields.at? "client" with
    | some (.object client) => if client.isEmpty then "" else " (" ++ fieldText client "name" ++ ")"
    | _ => ""
  let place := (fields.at? "location").getD .null
  "- " ++ fieldText fields "formatted_date" ++ " " ++ fieldText fields "formatted_time" ++ " " ++
    fieldText fields "subject" ++ client ++ (if place.truthy then " @ " ++ place.shown else "")

/-- One line for each meeting that is shown. -/
def summary (meetings : List Fields) : String :=
  "\n".intercalate (meetings.map line)

/-- The sentence that counts meetings. -/
def countMessage (count : Nat) (label : String) : String :=
  if count = 0 then s!"No meetings found {label}."
  else
    let noun := if count = 1 then "meeting" else "meetings"
    s!"Found {count} {noun} {label}."

/-- The fields that list meetings. -/
def listing (meetings : List Fields) (label : String) : Fields :=
  [ ("meetings", .list (meetings.map .object)),
    ("count", .int meetings.length),
    ("message", .text (countMessage meetings.length label)),
    ("summary", .text (summary meetings)) ]

end Meeting

namespace Range

/-- Read the range of dates, today unless another one is asked for. -/
def read (v : Value) : Checked String :=
  match v with
  | .object fields => Checked.optional fields "date_range" "today" Checked.text
  | v => .mismatch (.notRecord "MeetingsByDateRangeArgs") v

/-- A range in time, from the start on and before the finish, and the words
for it. -/
structure Resolved where
  start : Option Moment
  finish : Option Moment
  label : String

/-- Why an expression is no range: it is not understood, or it leaves the
calendar. -/
inductive Unresolved where
  | unrecognized
  | outside

/-- The moment some days after a reading of the clock. -/
def daysAfter (moment : Moment) (days : Nat) : Except Unresolved Moment :=
  match moment.later? (days * fullDay) with
  | some later => .ok later
  | none => .error .outside

/-- The midnight with which the day of a moment began. -/
def midnightOf (moment : Moment) : Moment :=
  match Clock.ofTicks? moment.clock.midnight with
  | some clock => { moment with clock := clock }
  | none => moment

/-- A range of whole days that begins some days after today. -/
def days (now : Moment) (skip length : Nat) (label : String) : Except Unresolved Resolved := do
  let midnight := midnightOf now
  let start ← if skip = 0 then pure midnight else daysAfter midnight skip
  let finish ← daysAfter midnight (skip + length)
  return ⟨some start, some finish, label⟩

/-- The first moment of a written day. -/
def dayStart (region : Region) (s : String) : Except Unresolved Moment :=
  match (Day.read? (Text.trim s)).bind fun date => Clock.atTime? date 0 with
  | some clock => .ok ⟨clock, .region region, false⟩
  | none => .error .unrecognized

/-- Cut an expression at its first slash. -/
def parts (s : String) : String × String :=
  let cs := s.toList
  (String.ofList (cs.takeWhile (· ≠ '/')), String.ofList ((cs.dropWhile (· ≠ '/')).drop 1))

/-- The range of a written day, or of two with a slash between them, the
second one included. -/
def explicit (region : Region) (expression : String) : Except Unresolved Resolved := do
  let (first, last) := parts expression
  let start ← dayStart region first
  let lastDay ← if last = "" then pure start else dayStart region last
  if lastDay.before start then .error .unrecognized
  else
    let finish ← daysAfter lastDay 1
    let label := if last = "" then s!"on {start.dateText}"
      else s!"between {start.dateText} and {lastDay.dateText}"
    return ⟨some start, some finish, label⟩

/-- The range that a trimmed, lowered expression stands for. -/
def resolve (region : Region) (now : Moment) (key : String) : Except Unresolved Resolved :=
  if key = "today" then days now 0 1 "for today"
  else if key = "tomorrow" then days now 1 1 "for tomorrow"
  else if key = "week" then days now 0 7 "in the next 7 days"
  else if key = "month" then days now 0 30 "in the next 30 days"
  else if key = "future" then .ok ⟨some now, none, "upcoming"⟩
  else if key = "past" then .ok ⟨none, some now, "in the past"⟩
  else if key = "all" then .ok ⟨none, none, "in total"⟩
  else explicit region key

/-- The answer to an expression that is no range. -/
def unrecognized (expression : String) : Answer :=
  .failure (s!"unrecognized date range: {Text.quoted expression}. " ++
    "Use a keyword or YYYY-MM-DD[/YYYY-MM-DD].") []

/-- The caller's meetings in a range. -/
def run (book : Book) (region : Region) (clock : Moment) (expression : String)
    (caller : Value) : Except Fault Answer := do
  let now ← clock.localIn region
  match resolve region now (Text.lower (Text.trim expression)) with
  | .error .unrecognized => return unrecognized expression
  | .error .outside => .error .dateOutOfRange
  | .ok range =>
    let meetings := book.meetingsOf caller ⟨range.start, range.finish, .null⟩
    let items ← meetings.mapM (Meeting.shown book region caller)
    return .success (Meeting.listing items range.label)

end Range

namespace WithClient

/-- Read the name of a client. -/
def read (v : Value) : Checked String :=
  match v with
  | .object fields => Checked.required fields "client_name" Checked.text
  | v => .mismatch (.notRecord "MeetingsByClientArgs") v

/-- The caller's meetings with a client. -/
def run (book : Book) (region : Region) (name : String) (caller : Value) :
    Except Fault Answer := do
  match ← book.findClient caller name true with
  | none => return .failure ("client \x22" ++ name ++ "\x22 not found") []
  | some client =>
    let meetings := book.meetingsOf caller ⟨none, none, client.id⟩
    let items ← meetings.mapM (Meeting.shown book region caller)
    return .success
      ([("client_id", client.id), ("client_name", .text client.fullName)] ++
        Meeting.listing items s!"with {client.fullName}")

end WithClient

namespace Draft

/-- The details of a new meeting. -/
structure Args where
  clientId : Option Int
  clientName : Option String
  subject : String
  dateTime : String
  duration : Int
  location : String
  notes : String

/-- Read the details of a new meeting. -/
def read (v : Value) : Checked Args :=
  match v with
  | .object fields =>
    let text (name : String) := Checked.optional fields name "" Checked.text
    Args.mk <$> Checked.optional fields "client_id" none (Checked.nullable Checked.whole)
      <*> Checked.optional fields "client_name" none (Checked.nullable Checked.text)
      <*> text "subject"
      <*> text "date_time"
      <*> Checked.optional fields "duration" 60 Checked.whole
      <*> text "location"
      <*> text "notes"
  | v => .mismatch (.notRecord "PrepareMeetingArgs") v

/-- The details that are missing. A client is given by an id other than zero
or by a name. -/
def missing (args : Args) : List String :=
  let client := args.clientId.any (· ≠ 0) || args.clientName.any (· ≠ "")
  (if client then [] else ["client"]) ++
    (if Text.trim args.subject = "" then ["subject"] else []) ++
    (if Text.trim args.dateTime = "" then ["date_time"] else [])

/-- The client that the details name: by id if there is one, else by name. -/
def client (book : Book) (caller : Value) (args : Args) : Except Fault (Option Client) :=
  match args.clientId with
  | some id => .ok (book.client? caller (.int id))
  | none =>
    match args.clientName with
    | some name => if name = "" then .ok none else book.findClient caller name false
    | none => .ok none

/-- The answer to a meeting that would last no time. Its minutes are named, which may
be impossible. -/
def badDuration (minutes : Int) : Except Fault Answer :=
  match (Value.int minutes).shown? with
  | .ok text => .ok (.failure s!"invalid duration: {text}" [])
  | .error obstacle => .error (.unwritten obstacle)

/-- The dialog for a new meeting. -/
def run (book : Book) (region : Region) (args : Args) (caller : Value) :
    Except Fault Answer := do
  let absent := missing args
  if absent ≠ [] then
    return .failure "incomplete meeting details" [("required_params", .ofTexts absent)]
  else if args.duration ≤ 0 then badDuration args.duration
  else match Moment.readLocal? region args.dateTime with
  | none => return .failure s!"invalid date/time: {Text.quoted args.dateTime}" []
  | some start =>
    match ← client book caller args with
    | none => return .failure "client not found" []
    | some client =>
      let shown ← start.localIn region
      let data : Fields :=
        [ ("client_id", client.id),
          ("client_name", .text client.fullName),
          ("client_email", client.email),
          ("subject", .text (Text.trim args.subject)) ] ++ Meeting.timeFields shown ++
        [ ("duration", .int args.duration),
          ("location", .text args.location),
          ("notes", .text args.notes) ]
      return .success
        [ ("meeting_data", .object data),
          ("show_dialog", .bool true),
          ("dialog_type", .text "create_meeting"),
          ("message", .text (s!"Preparing a meeting with {client.fullName} on " ++
            s!"{shown.dateText} at {shown.timeText}.")) ]

end Draft

namespace Edit

/-- The changes to a meeting; what is absent keeps its value. -/
structure Args where
  meetingId : Int
  subject : Option String
  dateTime : Option String
  duration : Option Int
  location : Option String
  notes : Option String

/-- Read the changes to a meeting. -/
def read (v : Value) : Checked Args :=
  match v with
  | .object fields =>
    let text (name : String) := Checked.optional fields name none (Checked.nullable Checked.text)
    Args.mk <$> Checked.required fields "meeting_id" Checked.whole
      <*> text "subject"
      <*> text "date_time"
      <*> Checked.optional fields "duration" none (Checked.nullable Checked.whole)
      <*> text "location"
      <*> text "notes"
  | v => .mismatch (.notRecord "PrepareEditMeetingArgs") v

/-- Why changes cannot be made. -/
inductive Refusal where
  | badDateTime (text : String)
  | badDuration (minutes : Int)

/-- The answer to changes that cannot be made. -/
def Refusal.answer : Refusal → Except Fault Answer
  | .badDateTime text => .ok (.failure s!"invalid date/time: {Text.quoted text}" [])
  | .badDuration minutes => Draft.badDuration minutes

/-- The fields that a new start sets. -/
def newTime (region : Region) (args : Args) : Except Fault (Except Refusal Fields) :=
  match args.dateTime.filter (· ≠ "") with
  | none => .ok (.ok [])
  | some text =>
    match Moment.readLocal? region text with
    | none => .ok (.error (.badDateTime text))
    | some start => (start.localIn region).map fun shown => .ok (Meeting.timeFields shown)

/-- The fields that a new duration sets. -/
def newDuration (args : Args) : Except Refusal Fields :=
  match args.duration with
  | none => .ok []
  | some minutes =>
    if minutes ≤ 0 then .error (.badDuration minutes) else .ok [("duration", .int minutes)]

/-- The fields that new texts set. -/
def newTexts (args : Args) : Fields :=
  [("subject", args.subject), ("location", args.location), ("notes", args.notes)].filterMap
    fun entry => entry.2.map fun text => (entry.1, .text text)

/-- Whether a field differs from what it was. A field that was not set differs
only when its value differs from itself. -/
def differs (current set : Fields) (name : String) (before : Value) : Bool :=
  match set.at? name with
  | some after => !after.same before
  | none => match (current.at? name).getD .null with
    | .real x => x.isNan
    | _ => false

/-- The names of changed fields, in alphabetical order. -/
def changed (current set : Fields) : List String :=
  ((current.filter fun entry => differs current set entry.1 entry.2).map Prod.fst).mergeSort
    fun a b => a ≤ b

/-- The answer when there is no meeting with an id. The id is named, which may be
impossible. -/
def notFound (id : Int) : Except Fault Answer :=
  match (Value.int id).shown? with
  | .ok text => .ok (.failure s!"meeting {text} not found" [])
  | .error obstacle => .error (.unwritten obstacle)

/-- The dialog for a changed meeting. -/
def run (book : Book) (region : Region) (args : Args) (caller : Value) :
    Except Fault Answer := do
  match book.meeting? caller (.int args.meetingId) with
  | none => notFound args.meetingId
  | some meeting =>
    let current ← meeting.shown book region caller
    match ← newTime region args with
    | .error refusal => refusal.answer
    | .ok time =>
      match newDuration args with
      | .error refusal => refusal.answer
      | .ok duration =>
        let set := time ++ duration ++ newTexts args
        let names := changed current set
        let subject := "\x22" ++ meeting.subject.shown ++ "\x22"
        return .success
          [ ("meeting_id", meeting.id),
            ("meeting_data", .object (current.putAll set)),
            ("original", .object current),
            ("changed_fields", .ofTexts names),
            ("show_dialog", .bool true),
            ("dialog_type", .text "edit_meeting"),
            ("message", .text
              (if names.isEmpty then s!"No changes requested for {subject}."
                else s!"Preparing changes to {subject}: " ++ ", ".intercalate names ++ ".")) ]

end Edit

namespace Operation

variable {σ : Type}

/-- An act that needs nothing but the book and the clock. -/
def settledAct (answer : Except Fault Answer) : Act σ := fun state =>
  (.now (.ofExcept answer), state)

/-- List meetings in a named or explicit date range. -/
def getMeetingsByDateRange (book : Book) (region : Region) (clock : Moment) : Operation σ where
  name := "get_meetings_by_date_range"
  description := "List the caller's meetings for 'today', 'tomorrow', 'week', " ++
    "'month', 'future', 'past', 'all', a single YYYY-MM-DD day or a " ++
    "YYYY-MM-DD/YYYY-MM-DD range (end day inclusive)."
  parameters := Parameter.sheet "MeetingsByDateRangeArgs" none
    [.withDefault "date_range" .text (.text "today")]
  prepare v := (Range.read v).map fun expression caller =>
    settledAct (Range.run book region clock expression caller)

/-- List every meeting with one client. -/
def getMeetingsByClientName (book : Book) (region : Region) : Operation σ where
  name := "get_meetings_by_client_name"
  description := "List the caller's meetings with a client, looked up by name."
  parameters := Parameter.sheet "MeetingsByClientArgs" none [.needed "client_name" .text]
  prepare v := (WithClient.read v).map fun name caller =>
    settledAct (WithClient.run book region name caller)

/-- Check a new meeting and return the data for its dialog. -/
def prepareMeetingData (book : Book) (region : Region) : Operation σ where
  name := "prepare_meeting_data"
  description := "Prepare a new meeting with a client for confirmation. Requires a " ++
    "client (id or name), a subject and an ISO date/time."
  parameters := Parameter.sheet "PrepareMeetingArgs" none
    [ .orNull "client_id" .whole, .orNull "client_name" .text,
      .withDefault "subject" .text (.text ""), .withDefault "date_time" .text (.text ""),
      .withDefault "duration" .whole (.int 60), .withDefault "location" .text (.text ""),
      .withDefault "notes" .text (.text "") ]
  prepare v := (Draft.read v).map fun args caller =>
    settledAct (Draft.run book region args caller)

/-- Merge changes into a meeting and return the data for its dialog. -/
def prepareEditMeeting (book : Book) (region : Region) : Operation σ where
  name := "prepare_edit_meeting"
  description := "Prepare changes to one of the caller's meetings for confirmation. " ++
    "Fields left out keep their current value."
  parameters := Parameter.sheet "PrepareEditMeetingArgs" none
    [ .needed "meeting_id" .whole, .orNull "subject" .text, .orNull "date_time" .text,
      .orNull "duration" .whole, .orNull "location" .text, .orNull "notes" .text ]
  prepare v := (Edit.read v).map fun args caller =>
    settledAct (Edit.run book region args caller)

end Operation

end FlowDesk
