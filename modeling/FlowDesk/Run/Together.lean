/-
# Runs side by side

Several runs against one handler. They take turns: a run goes on until one of
its calls is answered with a delay, and then waits for as many turns. A round
gives every run one turn, always in the same order. A run whose call is never
answered stays behind, and the others go on without it.
-/

import FlowDesk.Run.Progress

namespace FlowDesk

/-- A run among others: it has ended, with a result unless a call was never
answered, or it goes on when it has waited for some more turns. -/
inductive Strand (α : Type) where
  | ended (result : Option α)
  | waiting (turns : Nat) (run : Progress α)

namespace Progress

variable {σ α : Type}

/-- Go on with a run until it ends or has to wait. -/
def advance (handler : Handler σ) : Progress α → σ → Strand α × σ
  | .done result, state => (.ended (some result), state)
  | .awaits call resume, state =>
    match handler call state with
    | (.never, next) => (.ended none, next)
    | (.after 0 answer, next) => (resume answer).advance handler next
    | (.after (turns + 1) answer, next) => (.waiting turns (resume answer), next)

end Progress

namespace Strand

variable {σ α : Type}

/-- One turn of a run. -/
def turn (handler : Handler σ) : Strand α → σ → Strand α × σ
  | .ended result, state => (.ended result, state)
  | .waiting (turns + 1) run, state => (.waiting turns run, state)
  | .waiting 0 run, state => run.advance handler state

/-- One turn of every run, in order. -/
def round (handler : Handler σ) : List (Strand α) → σ → List (Strand α) × σ
  | [], state => ([], state)
  | strand :: rest, state =>
    let (first, next) := strand.turn handler state
    let (others, final) := round handler rest next
    (first :: others, final)

/-- Some rounds, one after the other. -/
def rounds (handler : Handler σ) : Nat → List (Strand α) → σ → List (Strand α) × σ
  | 0, strands, state => (strands, state)
  | count + 1, strands, state =>
    let (strands, next) := round handler strands state
    rounds handler count strands next

theorem length_round (handler : Handler σ) (strands : List (Strand α)) (state : σ) :
    (round handler strands state).1.length = strands.length := by
  induction strands generalizing state with
  | nil => rfl
  | cons strand rest ih => simp only [round, List.length_cons, ih]

theorem length_rounds (handler : Handler σ) (count : Nat) (strands : List (Strand α))
    (state : σ) : (rounds handler count strands state).1.length = strands.length := by
  induction count generalizing strands state with
  | zero => rfl
  | succ count ih => simp only [rounds, ih, length_round]

end Strand

/-- What leading a run to its end shows: its result, unless a call was never
answered, where the other runs are then, and the state of the handler. -/
structure Led (σ α : Type) where
  result : Option α
  others : List (Strand α)
  state : σ

namespace Progress

variable {σ α : Type}

/-- Lead a run to its end. Whenever it waits, the others take their turns. -/
def lead (handler : Handler σ) : Progress α → List (Strand α) → σ → Led σ α
  | .done result, others, state => ⟨some result, others, state⟩
  | .awaits call resume, others, state =>
    match handler call state with
    | (.never, next) => ⟨none, others, next⟩
    | (.after turns answer, next) =>
      let (others, next) := Strand.rounds handler turns others next
      (resume answer).lead handler others next

theorem length_lead (handler : Handler σ) (run : Progress α) (others : List (Strand α))
    (state : σ) : (run.lead handler others state).others.length = others.length := by
  induction run generalizing others state with
  | done result => rfl
  | awaits call resume ih =>
    simp only [lead]
    split
    · rfl
    · simp only [ih, Strand.length_rounds]

end Progress

namespace Strand

variable {σ α : Type}

/-- The results of runs that take turns, in the order of the runs. The first
run is led to its end, then the second one from where it is by then, and so
on: a run that has ended takes no more turns. -/
def finishAll (handler : Handler σ) : List (Strand α) → σ → List (Option α) × σ
  | [], state => ([], state)
  | .ended result :: rest, state =>
    let (results, final) := finishAll handler rest state
    (result :: results, final)
  | .waiting turns run :: rest, state =>
    let waited := rounds handler turns rest state
    let led := run.lead handler waited.1 waited.2
    let (results, final) := finishAll handler led.others led.state
    (led.result :: results, final)
termination_by strands => strands.length
decreasing_by
  · simp
  · simp [Progress.length_lead, length_rounds]

end Strand

/-- Play runs side by side against a handler. -/
def Progress.playAll {σ α : Type} (handler : Handler σ) (runs : List (Progress α)) (state : σ) :
    List (Option α) × σ :=
  Strand.finishAll handler (runs.map (Strand.waiting 0)) state

end FlowDesk
