/-
# Runs as finite descriptions

A run is described without its surroundings: it is finished, or it awaits the
answer to a call and says how it goes on for every answer. The same
description can be played against any handler, one call after the other or
interleaved with other runs.
-/

import FlowDesk.Run.Call

namespace FlowDesk

/-- A run in progress. -/
inductive Progress (α : Type) where
  | done (result : α)
  | awaits (call : Call) (resume : Answer → Progress α)

/-- What playing a run against a handler shows: its calls in order, its result
unless a call was never completed, and the handler's state afterwards. -/
structure Played (σ α : Type) where
  calls : List Call
  result : Option α
  state : σ

namespace Progress

variable {σ α β : Type}

/-- A run whose result is passed through a function. -/
def map (f : α → β) : Progress α → Progress β
  | .done result => .done (f result)
  | .awaits call resume => .awaits call fun answer => (resume answer).map f

/-- Play a run against a handler. -/
def play (handler : Handler σ) : Progress α → σ → Played σ α
  | .done result, state => ⟨[], some result, state⟩
  | .awaits call resume, state =>
    match handler call state with
    | (.never, next) => ⟨[call], none, next⟩
    | (.after _ answer, next) =>
      let rest := (resume answer).play handler next
      { rest with calls := call :: rest.calls }

end Progress

end FlowDesk
