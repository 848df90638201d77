/-
# Financial news

The latest headlines from a news service. The service is asked once; a
service that does not answer, or not usably, is a failure that flows can
handle. Articles are brought to one shape, whatever the service sends.
-/

import FlowDesk.Json.Encoding
import FlowDesk.Operation.Basic
import FlowDesk.Operation.Parameter

namespace FlowDesk

namespace News

/-- What came back from the service: no connection, no answer in time, another
failure of the connection, something that is no response, or a response whose
body may be unreadable. -/
inductive Fetched where
  | unreachable
  | late
  | broken (label message : String)
  | garbled
  | response (status : Int) (body : Except Json.ReadError Value)

/-- Whoever asks the service for an address, with a state of its own. -/
abbrev Fetcher (σ : Type) := String → σ → Fetched × σ

/-- A response with the bytes of its body, which is unreadable unless they are
an encoded JSON text. -/
def Fetched.ofBytes (status : Int) (body : List UInt8) : Fetched :=
  .response status (Json.ofBytes body)

/-- The number of articles: at least one and at most fifty, five unless asked
otherwise. -/
def read (v : Value) : Checked Int :=
  match v with
  | .object fields => Checked.optional fields "max_results" 5 (Checked.wholeWithin 1 50)
  | v => .mismatch (.notRecord "FinancialNewsArgs") v

/-- Drop slashes at the end of an address. -/
def withoutSlash (address : String) : String :=
  String.ofList (address.toList.reverse.dropWhile (· = '/')).reverse

/-- The address to ask for some articles. What a base asks for by itself is
dropped. -/
def address (base : String) (count : Int) : Except Address.Error Address := do
  let address ← Address.read (withoutSlash base ++ "/news")
  let reached ← address.fromBase .blank
  reached.withQuery s!"limit={count}"

/-- A field of an article or source, empty when it is absent. -/
def field (fields : Fields) (name : String) : Value :=
  (fields.at? name).getD (.text "")

/-- The name of a source that is given as an object, or the source itself. -/
def sourceName : Value → Value
  | .object fields => field fields "name"
  | v => v

/-- An article in the desk's own shape. -/
def normalize : Value → Except Fault Fields
  | .object given =>
    let fields : Fields := given
    let published := (fields.at? "publishedAt").getD .null
    .ok
      [ ("title", field fields "title"),
        ("description", field fields "description"),
        ("source", sourceName (field fields "source")),
        ("published_at", if published.truthy then published else field fields "published_at"),
        ("url", field fields "url") ]
  | v => .error (.noMember v.kindName "get")

/-- The line for an article: its title, and its source if it has one. -/
def headline (article : Fields) : String :=
  let title := (field article "title").shown
  let source := field article "source"
  if source.truthy then s!"- {title} ({source.shown})" else s!"- {title}"

/-- The first parts of data that has parts in an order. -/
def firstParts (count : Nat) : Value → Except Fault (List Value)
  | .list vs => .ok (vs.take count)
  | .text s => .ok ((s.toList.take count).map fun c => .text (String.singleton c))
  | .object _ => .error .namedParts
  | v => .error (.noParts v.kindName)

/-- What a body says are its articles. -/
def articles : Value → Value
  | .object fields => (Table.at? fields "articles").getD (.list [])
  | _ => .list []

/-- The result for a readable body. -/
def digest (count : Nat) (body : Value) : Except Fault Answer := do
  let chosen ← firstParts count (articles body)
  let news ← chosen.mapM normalize
  return .success
    [ ("news", .list (news.map .object)),
      ("count", .int news.length),
      ("headlines", .text ("\n".intercalate (news.map headline))) ]

/-- The answer to a service that does not make itself understood. -/
def unreadable : Answer := .failure "the news service returned an unreadable response" []

/-- The answer to what a response holds. A body that is nested too deeply is an
accident. -/
def answerTo (count : Int) (status : Int) (body : Except Json.ReadError Value) : Answer :=
  if status < 200 ∨ 300 ≤ status then
    .failure s!"the news service returned an error (status {status})" []
  else match body with
    | .ok body => .ofExcept (digest count.toNat body)
    | .error .deepList => .fault (.unreadable .deepList)
    | .error .deepObject => .fault (.unreadable .deepObject)
    | .error _ => unreadable

/-- The answer to what came back from an address. A response from an address
that leads nowhere by itself is not understood. -/
def answer (address : Address) (count : Int) : Fetched → Answer
  | .unreachable => .failure "the news service is currently unavailable" []
  | .late => .failure "the news service did not answer in time" []
  | .broken label message => .fault (.transport label message)
  | .garbled => unreadable
  | .response status body =>
    if address.isAbsolute then answerTo count status body else unreadable

end News

namespace Operation

variable {σ : Type}

/-- Fetch the latest financial headlines. -/
def getFinancialNews (base : String) (fetch : News.Fetcher σ) : Operation σ where
  name := "get_financial_news"
  description := "Return the latest financial news headlines with source, " ++
    "publication date and link."
  parameters := Parameter.sheet "FinancialNewsArgs" none
    [⟨"max_results", .whole, some (.int 5), false, some (1, 50)⟩]
  prepare v := (News.read v).map fun count _ state =>
    match News.address base count with
    | .error error => (.now (.fault (.wrongAddress error)), state)
    | .ok address =>
      let (fetched, next) := fetch address.text state
      (.now (News.answer address count fetched), next)

end Operation

end FlowDesk
