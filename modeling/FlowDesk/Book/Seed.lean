/-
# Seeds

A seed is data with a list of clients and a list of meetings, each an object
whose fields are those of a record. A field that records do not have, or one
that they cannot do without, makes the seed unusable; what the fields hold is
not checked.
-/

import FlowDesk.Book.Basic
import FlowDesk.Calendar.Iso
import FlowDesk.Json.Reader

namespace FlowDesk.Book

/-- Why a seed is unusable. -/
inductive SeedError where
  | notJson (error : Json.ReadError)
  | noMember (kind : String)
  | noItems (kind : String)
  | noFields
  | wrongFields
  | noPairs
  | noStart
  | startNotText
  | unreadableStart
  deriving DecidableEq

/-- The items of data that holds some: a list, the names of fields, or the
characters of a text. -/
def items : Value → Except SeedError (List Value)
  | .list vs => .ok vs
  | .object fields => .ok (fields.map fun entry => .text entry.1)
  | .text s => .ok (s.toList.map fun c => .text (String.singleton c))
  | v => .error (.noItems v.kindName)

/-- The items of one of the seed's lists; an absent list is empty. -/
def section? (seed : Value) (name : String) : Except SeedError (List Value) :=
  match seed with
  | .object fields => items ((Table.at? fields name).getD (.list []))
  | v => .error (.noMember v.kindName)

/-- Whether some fields are among the known ones, the needed ones included. -/
def fits (fields : Fields) (needed others : List String) : Bool :=
  needed.all fields.has && fields.names.all fun name => needed.contains name || others.contains name

/-- A client record. -/
def client (v : Value) : Except SeedError Client :=
  match v with
  | .object given =>
    let fields : Fields := given
    if fits fields ["id", "advisor_id", "first_name", "last_name"]
        ["email", "phone", "is_archived", "is_onboarded", "risk_profile", "notes", "assets"] then
      let field (name : String) (default : Value) := (fields.at? name).getD default
      .ok
        { id := field "id" .null
          advisor := field "advisor_id" .null
          firstName := field "first_name" .null
          lastName := field "last_name" .null
          email := field "email" (.text "")
          phone := field "phone" (.text "")
          isArchived := field "is_archived" (.bool false)
          isOnboarded := field "is_onboarded" (.bool false)
          riskProfile := field "risk_profile" (.text "")
          notes := field "notes" (.text "")
          assets := field "assets" (.list []) }
    else .error .wrongFields
  | _ => .error .noFields

/-- A pair that may stand for a field. A name that is no text is the name of
no field. -/
def pair (v : Value) : Except SeedError (String × Value) :=
  let ofPair (name value : Value) : Except SeedError (String × Value) :=
    match name with
    | .text s => .ok (s, value)
    | .list _ => .error .noFields
    | .object _ => .error .noFields
    | other => .ok (other.quoted, value)
  match items v with
  | .ok [name, value] => ofPair name value
  | .ok _ => .error .noPairs
  | .error _ => .error .noFields

/-- The fields of a meeting record: an object, or a list of pairs. -/
def meetingFields : Value → Except SeedError Fields
  | .object fields => .ok fields
  | .list vs => (vs.mapM pair).map Table.ofEntries
  | .text s => if s = "" then .ok [] else .error .noPairs
  | _ => .error .noFields

/-- A meeting record; a start without an offset is a reading of the zone's
clock. -/
def meeting (zone : Calendar.Zone) (v : Value) : Except SeedError Meeting := do
  let fields ← meetingFields v
  let field (name : String) (default : Value) := (fields.at? name).getD default
  let start ← match fields.at? "date_time" with
    | none => .error .noStart
    | some (.text s) => match Calendar.Moment.read? zone s with
      | some start => .ok start
      | none => .error .unreadableStart
    | some _ => .error .startNotText
  if fits fields ["id", "advisor_id", "subject", "date_time"]
      ["duration", "client_id", "location", "notes"] then
    return {
      id := field "id" .null
      advisor := field "advisor_id" .null
      subject := field "subject" .null
      start := start
      duration := field "duration" (.int 60)
      client := field "client_id" .null
      location := field "location" (.text "")
      notes := field "notes" (.text "") }
  else .error .wrongFields

/-- The book of a seed. -/
def ofSeed (zone : Calendar.Zone) (seed : Value) : Except SeedError Book := do
  let clients ← (← section? seed "clients").mapM client
  let meetings ← (← section? seed "meetings").mapM (meeting zone)
  return ofRecords clients meetings

/-- The book of a seed file. -/
def ofText (zone : Calendar.Zone) (text : String) : Except SeedError Book :=
  match Json.ofText text with
  | .ok seed => ofSeed zone seed
  | .error error => .error (.notJson error)

end FlowDesk.Book
