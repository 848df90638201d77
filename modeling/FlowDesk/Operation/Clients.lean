/-
# Operations on clients

Finding the client a message is about, a client's profile, and searching an
advisor's clients.
-/

import FlowDesk.Book.Basic
import FlowDesk.Number.Numeral
import FlowDesk.Operation.Basic
import FlowDesk.Operation.Parameter
import FlowDesk.Text.NameRun

namespace FlowDesk

namespace Client

/-- A client in a list of search results. -/
def summary (client : Client) : Value :=
  .object
    [ ("id", client.id),
      ("name", .text client.fullName),
      ("email", client.email),
      ("is_archived", client.isArchived) ]

/-- A value as a fractional number. -/
def amount : Value → Except Fault Binary64
  | .bool b => .ok (Binary64.ofInt (if b then 1 else 0))
  | .int n =>
    match Binary64.ofInt n with
    | .infinite _ => .error .numberTooLarge
    | x => .ok x
  | .real x => .ok x
  | .text s =>
    match Numeral.decimal? s with
    | some x => .ok x
    | none => .error (.unreadableNumber s)
  | v => .error (.noNumber v.kindName)

/-- The worth of an asset; one without a value is worth nothing. -/
def worth : Value → Except Fault Binary64
  | .object fields =>
    match Table.at? fields "value" with
    | some v => if v.truthy then amount v else .ok (Binary64.zero false)
    | none => .ok (Binary64.zero false)
  | v => .error (.noMember v.kindName "get")

/-- The items of data that is said to hold assets. -/
def assetItems : Value → Except Fault (List Value)
  | .list vs => .ok vs
  | .object fields => .ok (fields.map fun entry => .text entry.1)
  | .text s => .ok (s.toList.map fun c => .text (String.singleton c))
  | v => .error (.noItems v.kindName)

/-- The worth of all assets together, added up in order; the whole number zero
when there are none. -/
def totalWorth (assets : List Value) : Except Fault Value := do
  let worths ← assets.mapM worth
  if worths.isEmpty then return .int 0
  else return .real (worths.foldl Binary64.add (Binary64.zero false))

/-- Everything known about a client. -/
def profile (client : Client) : Except Fault Value := do
  let assets ← assetItems client.assets
  let total ← totalWorth assets
  return .object
    [ ("id", client.id),
      ("first_name", client.firstName),
      ("last_name", client.lastName),
      ("name", .text client.fullName),
      ("email", client.email),
      ("phone", client.phone),
      ("is_archived", client.isArchived),
      ("is_onboarded", client.isOnboarded),
      ("risk_profile", client.riskProfile),
      ("notes", client.notes),
      ("assets", .list assets),
      ("total_assets", total) ]

end Client

namespace Extraction

/-- The arguments: the message to look into. -/
def read (v : Value) : Checked String :=
  match v with
  | .object fields => Checked.required fields "message" Checked.text
  | v => .mismatch (.notRecord "ExtractClientNameArgs") v

/-- Whether one client's name may be tried before another's: it is not
shorter. -/
def notShorter (a b : Client) : Bool := b.fullName.length ≤ a.fullName.length

/-- The first of some clients whose lowered name, in either order, occurs in a
lowered text. -/
def firstNamed (lowered : String) : List Client → Except Fault (Option Client)
  | [] => .ok none
  | client :: rest => do
    let (first, last) ← client.loweredNames
    if Text.contains lowered (first ++ " " ++ last) || Text.contains lowered (last ++ " " ++ first)
    then return some client
    else firstNamed lowered rest

/-- The name in a message: that of a known client, the longest first, or else
the first run of capitalized words. -/
def run (book : Book) (message : String) (caller : Value) : Except Fault Answer := do
  let text := Text.respaced message
  let clients := (book.clientsOf caller true).mergeSort notShorter
  match ← firstNamed (Text.lower text) clients with
  | some client =>
    return .success [("client_name", .text client.fullName), ("client_id", client.id)]
  | none =>
    match Text.NameRun.first? text with
    | some name => return .success [("client_name", .text name)]
    | none => return .failure "no client name found in message" []

end Extraction

namespace Profile

/-- The arguments: a name, and the question that led to it. -/
structure Args where
  clientName : String
  query : String

/-- Read the arguments. -/
def read (v : Value) : Checked Args :=
  match v with
  | .object fields =>
    Args.mk <$> Checked.required fields "client_name" Checked.text
      <*> Checked.optional fields "query" "" Checked.text
  | v => .mismatch (.notRecord "ClientContextArgs") v

/-- The answer when no client, or more than one, has a name. -/
def notFound (name : String) : Answer :=
  .failure ("client \x22" ++ name ++ "\x22 not found") []

/-- The profile of the client with a name, archived or not. -/
def run (book : Book) (args : Args) (caller : Value) : Except Fault Answer := do
  if Text.trim args.clientName = "" then return .failure "client name is required" []
  else
    match ← book.findClient caller args.clientName true with
    | none => return notFound args.clientName
    | some client =>
      let profile ← client.profile
      return .success
        [("client_id", client.id), ("client_info", profile), ("query", .text args.query)]

end Profile

namespace Search

/-- The arguments: what to look for, how many clients to list at most, and
whether archived ones count. -/
structure Args where
  query : String
  limit : Int
  withArchived : Bool

/-- Read the arguments. -/
def read (v : Value) : Checked Args :=
  match v with
  | .object fields =>
    Args.mk <$> Checked.required fields "query" Checked.text
      <*> Checked.optional fields "limit" 10 Checked.whole
      <*> Checked.optional fields "include_archived" false Checked.truth
  | v => .mismatch (.notRecord "SearchClientsArgs") v

/-- Whether a trimmed, lowered query finds a client: it occurs in the email or
the name, or one of its longer words occurs in a name. -/
def finds (query : String) (client : Client) : Except Fault Bool := do
  let (first, last) ← client.loweredNames
  let whole ← if query = "" then pure false
    else do
      let email ← client.email.lowered
      pure (Text.contains email query || Text.contains (first ++ " " ++ last) query)
  return whole || (Book.nameWords query).any fun word =>
    Text.contains first word || Text.contains last word

/-- The clients that a query finds, in their order. -/
def found (query : String) : List Client → Except Fault (List Client)
  | [] => .ok []
  | client :: rest => do
    let hit ← finds query client
    let others ← found query rest
    return if hit then client :: others else others

/-- The sentence that counts the clients found. -/
def countMessage (count : Nat) : String :=
  if count = 0 then "No clients match your search."
  else
    let noun := if count = 1 then "client" else "clients"
    s!"Found {count} {noun} matching your search."

/-- The clients that match a query, in file order. -/
def run (book : Book) (args : Args) (caller : Value) : Except Fault Answer := do
  let query := Text.trim (Text.lower args.query)
  let matching ← found query (book.clientsOf caller args.withArchived)
  let listed := (matching.take args.limit.toNat).map Client.summary
  return .success
    [ ("clients", .list listed),
      ("count", .int listed.length),
      ("message", .text (countMessage listed.length)) ]

end Search

namespace Operation

variable {σ : Type}

/-- An act that needs nothing but the book. -/
def pureAct (answer : Except Fault Answer) : Act σ := fun state =>
  (.now (.ofExcept answer), state)

/-- Find which of the caller's clients a message talks about. -/
def extractClientName (book : Book) : Operation σ where
  name := "extract_client_name"
  description := "Extract a client name from a free-text message. Known clients " ++
    "of the caller are matched first, then capitalized name pairs."
  parameters := Parameter.sheet "ExtractClientNameArgs" none [.needed "message" .text]
  prepare v := (Extraction.read v).map fun message caller =>
    pureAct (Extraction.run book message caller)

/-- Load a client's profile by name. -/
def getClientContext (book : Book) : Operation σ where
  name := "get_client_context"
  description := "Return the full profile of one of the caller's clients, looked " ++
    "up by name. Fails if the name matches no client or several."
  parameters := Parameter.sheet "ClientContextArgs" none
    [.needed "client_name" .text, .withDefault "query" .text (.text "")]
  prepare v := (Profile.read v).map fun args caller => pureAct (Profile.run book args caller)

/-- Search the caller's clients by name or email. -/
def searchClients (book : Book) : Operation σ where
  name := "search_clients"
  description := "Search the caller's clients by name, email or name fragments."
  parameters := Parameter.sheet "SearchClientsArgs" none
    [ .needed "query" .text, .withDefault "limit" .whole (.int 10),
      .withDefault "include_archived" .truth (.bool false) ]
  prepare v := (Search.read v).map fun args caller => pureAct (Search.run book args caller)

end Operation

end FlowDesk
