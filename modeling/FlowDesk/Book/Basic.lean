/-
# Books

The clients and meetings of all advisors. Records come from files and are
kept as they are, whatever their fields hold; only the start of a meeting is
read as a moment. Meetings are kept in the order of their starts, those that
start together in file order. Every question to a book is asked for one
advisor and sees only that advisor's records.
-/

import FlowDesk.Book.Sorting
import FlowDesk.Calendar.Moment
import FlowDesk.Run.Call
import FlowDesk.Text.Blank
import FlowDesk.Text.Case
import FlowDesk.Value.Compare
import FlowDesk.Value.Shown

namespace FlowDesk

/-- A client in an advisor's book. -/
structure Client where
  id : Value
  advisor : Value
  firstName : Value
  lastName : Value
  email : Value
  phone : Value
  isArchived : Value
  isOnboarded : Value
  riskProfile : Value
  notes : Value
  assets : Value

/-- A meeting in an advisor's calendar. -/
structure Meeting where
  id : Value
  advisor : Value
  subject : Value
  start : Calendar.Moment
  duration : Value
  client : Value
  location : Value
  notes : Value

/-- The clients and meetings of all advisors. -/
structure Book where
  clients : List Client
  meetings : List Meeting

/-- The lower-case form of a text; other data has none. -/
def Value.lowered (v : Value) : Except Fault String :=
  match v with
  | .text s => .ok (Text.lower s)
  | v => .error (.noMember v.kindName "lower")

namespace Client

/-- The first and last name of a client. -/
def fullName (client : Client) : String :=
  Text.trim (client.firstName.shown ++ " " ++ client.lastName.shown)

/-- The lowered first and last name. -/
def loweredNames (client : Client) : Except Fault (String × String) := do
  let first ← client.firstName.lowered
  let last ← client.lastName.lowered
  return (first, last)

end Client

namespace Book

/-- The book without records. -/
def empty : Book := ⟨[], []⟩

/-- Whether a meeting starts before another. -/
def startsBefore (a b : Meeting) : Bool := a.start.before b.start

/-- A book of some records, the meetings in the order of their starts. -/
def ofRecords (clients : List Client) (meetings : List Meeting) : Book :=
  ⟨clients, Sorting.sort startsBefore meetings⟩

/-- An advisor's clients in file order, archived ones only when asked for. -/
def clientsOf (book : Book) (advisor : Value) (withArchived : Bool) : List Client :=
  book.clients.filter fun client =>
    client.advisor.same advisor && (withArchived || !client.isArchived.truthy)

/-- An advisor's client with an id. -/
def client? (book : Book) (advisor id : Value) : Option Client :=
  book.clients.find? fun client => client.id.same id && client.advisor.same advisor

/-- An advisor's meeting with an id. -/
def meeting? (book : Book) (advisor id : Value) : Option Meeting :=
  book.meetings.find? fun meeting => meeting.id.same id && meeting.advisor.same advisor

/-- Which of an advisor's meetings are asked for: those from `start` on, those
before `finish`, and those with a client. -/
structure Span where
  start : Option Calendar.Moment
  finish : Option Calendar.Moment
  client : Value

/-- All meetings. -/
def Span.all : Span := ⟨none, none, .null⟩

/-- Whether a meeting is asked for. -/
def Span.covers (span : Span) (meeting : Meeting) : Bool :=
  (span.client.isNull || meeting.client.same span.client) &&
    span.start.all (fun start => !meeting.start.before start) &&
    span.finish.all (fun finish => meeting.start.before finish)

/-- An advisor's meetings that are asked for, in the order of their starts. -/
def meetingsOf (book : Book) (advisor : Value) (span : Span) : List Meeting :=
  book.meetings.filter fun meeting => meeting.advisor.same advisor && span.covers meeting

/-- A bound in time: a moment, or a reading of a clock that no zone is given
for and that cannot be compared with moments. -/
inductive Bound where
  | moment (moment : Calendar.Moment)
  | reading (clock : Calendar.Clock)

/-- The moment of a bound. -/
def Bound.moment? : Bound → Option Calendar.Moment
  | .moment placed => some placed
  | .reading _ => none

/-- An advisor's meetings within bounds. There is no answer when a meeting has
to be compared with a bound that is no moment. -/
def meetingsWithin? (book : Book) (advisor client : Value) (start finish : Option Bound) :
    Option (List Meeting) :=
  let upTo (from? to? : Option Calendar.Moment) := book.meetingsOf advisor ⟨from?, to?, client⟩
  let noneOrNothing (reached : List Meeting) := if reached.isEmpty then some [] else none
  match start, finish with
  | some (.reading _), _ => noneOrNothing (upTo none none)
  | start, some (.reading _) => noneOrNothing (upTo (start.bind Bound.moment?) none)
  | start, finish => some (upTo (start.bind Bound.moment?) (finish.bind Bound.moment?))

/-- The first client whose lowered full name, in either order, is the wanted
one. -/
def exactMatch (wanted : String) : List Client → Except Fault (Option Client)
  | [] => .ok none
  | client :: rest => do
    let (first, last) ← client.loweredNames
    if wanted = first ++ " " ++ last || wanted = last ++ " " ++ first then return some client
    else exactMatch wanted rest

/-- Whether one of some words is a client's lowered first or last name. -/
def namedBy (client : Client) : List String → Except Fault Bool
  | [] => .ok false
  | word :: rest => do
    let (first, last) ← client.loweredNames
    if word = first || word = last then return true else namedBy client rest

/-- The clients of whom one of some words is a name. -/
def partialMatches (words : List String) : List Client → Except Fault (List Client)
  | [] => .ok []
  | client :: rest => do
    let named ← namedBy client words
    let others ← partialMatches words rest
    return if named then client :: others else others

/-- The least length of a word that counts as a name. -/
def leastWord : Nat := 3

/-- The words of a text that are long enough to count as names. -/
def nameWords (s : String) : List String :=
  (Text.words s).filter fun word => leastWord ≤ word.length

/-- An advisor's client with a name. A full name, in either order, counts
first; otherwise a word of the name must be the first or last name of exactly
one client. -/
def findClient (book : Book) (advisor : Value) (name : String) (withArchived : Bool) :
    Except Fault (Option Client) := do
  let wanted := Text.respaced (Text.lower name)
  if wanted = "" then return none
  else
    let clients := book.clientsOf advisor withArchived
    match ← exactMatch wanted clients with
    | some client => return some client
    | none =>
      match ← partialMatches (nameWords wanted) clients with
      | [client] => return some client
      | _ => return none

end Book

end FlowDesk
