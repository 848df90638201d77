/-
# Rehearsals

For trying out flows without the outside world: operations that give prepared
results one after the other, and a news service that does the same. The last
result is repeated for ever.
-/

import FlowDesk.Operation.Documentation
import FlowDesk.Operation.News

namespace FlowDesk

/-- A prepared result of an operation. -/
inductive Part where
  | answer (answer : Answer)
  /-- The call is never completed. -/
  | silence
  /-- A success that names the caller. -/
  | caller

/-- A prepared result, and how many turns of other runs it takes. -/
structure Cue where
  turns : Nat
  part : Part

/-- The part of an operation in a rehearsal: its name and its results. -/
structure Role where
  name : String
  cues : List Cue

/-- How far a rehearsal has come: the calls of each operation so far, the news
still to come, and the addresses asked for, the last one first. -/
structure Rehearsal where
  calls : Table Nat
  news : List News.Fetched
  asked : List String

namespace Rehearsal

/-- The item at an index, or the last one when there are fewer. -/
def nthOrLast {α : Type} (index : Nat) : List α → Option α
  | [] => none
  | [last] => some last
  | first :: rest => match index with
    | 0 => some first
    | index + 1 => nthOrLast index rest

/-- A rehearsal that has not begun, with a news service that gives these
answers. -/
def start (news : List News.Fetched) : Rehearsal := ⟨[], news, []⟩

/-- Ask the news service; one without answers is out of reach. -/
def fetch : News.Fetcher Rehearsal := fun address rehearsal =>
  let asked := address :: rehearsal.asked
  match rehearsal.news with
  | [] => (.unreachable, { rehearsal with asked := asked })
  | [last] => (last, { rehearsal with asked := asked })
  | first :: rest => (first, { rehearsal with news := rest, asked := asked })

/-- Follow a cue for a caller; without one the call is never completed. -/
def play (caller : Value) : Option Cue → Delivery
  | some ⟨turns, .answer answer⟩ => .after turns answer
  | some ⟨turns, .caller⟩ => .after turns (.success [("who", caller)])
  | some ⟨_, .silence⟩ => .never
  | none => .never

end Rehearsal

/-- The operation that plays a role. -/
def Role.operation (role : Role) : Operation Rehearsal where
  name := role.name
  description := "fake"
  parameters := Parameter.noParameters
  prepare v := (Operation.readNothing v).map fun _ caller rehearsal =>
    let turn := (rehearsal.calls.at? role.name).getD 0
    (Rehearsal.play caller (Rehearsal.nthOrLast turn role.cues),
      { rehearsal with calls := rehearsal.calls.put role.name (turn + 1) })

end FlowDesk
