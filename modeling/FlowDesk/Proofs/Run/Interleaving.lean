/-
# Interleaved runs

Several runs against one handler, in any order at all.  A run is free to go on,
or it is inside a call.  A move lets one run go on: it makes its next call, or
takes the answer to the one that it is inside of.  Between these moves the
handler's state may change by itself, since the operations inside it go on
working.

When the answers depend on the calls alone, no move of one run reaches another
one: whatever the schedule, each run stands where its own moves would have led
it without the others (`Stand.interleave_fst`), and it comes to what it comes
to when it is played alone (`Stand.interleave_settled?`).  Runs that take turns
are one way of interleaving, and the same holds of them (`Progress.playAll_fst`).
-/

import FlowDesk.Run.Together
import Mathlib.Logic.Function.Iterate

namespace FlowDesk

variable {σ α : Type}

/-- A handler gives these answers to calls, in any state; some calls it may
never answer. -/
def Handler.AnswersBy (handler : Handler σ) (answers : Call → Option Answer) : Prop :=
  ∀ (call : Call) (state : σ), (handler call state).1.answer? = answers call

/-! ## Runs without a state -/

namespace Progress

/-- What a run comes to, given the answers to all calls. -/
def against (answers : Call → Option Answer) : Progress α → Option α
  | .done result => some result
  | .awaits call resume =>
    match answers call with
    | none => none
    | some answer => (resume answer).against answers

/-- The moves that a run needs: one to make each call, and one to take each
answer. -/
def moves (answers : Call → Option Answer) : Progress α → Nat
  | .done _ => 0
  | .awaits call resume =>
    match answers call with
    | none => 1
    | some answer => (resume answer).moves answers + 2

/-- A run that is played alone comes to what the answers lead to. -/
theorem result_play {handler : Handler σ} {answers : Call → Option Answer}
    (hanswers : handler.AnswersBy answers) (run : Progress α) (state : σ) :
    (run.play handler state).result = run.against answers := by
  induction run generalizing state with
  | done result => rfl
  | awaits call resume ih =>
    have hanswer := hanswers call state
    rw [play, against, ← hanswer]
    generalize handler call state = delivered
    obtain ⟨delivery, next⟩ := delivered
    cases delivery with
    | after turns answer => exact ih answer next
    | never => rfl

end Progress

/-! ## Schedules -/

/-- A run among others: free to go on, or inside a call, whose answer comes at
some time or never does. -/
inductive Stand (α : Type) where
  | free (run : Progress α)
  | inside (answer : Option Answer) (resume : Answer → Progress α)

/-- What happens next among some runs: one of them goes on, or the state of the
handler changes by itself. -/
inductive Move (σ : Type) where
  | go (index : Nat)
  | drift (state : σ)

/-- Whether a move lets the run at an index go on. -/
def Move.isFor (index : Nat) : Move σ → Bool
  | .go other => other == index
  | .drift _ => false

namespace Stand

/-- Go on with a run: make its next call, or take the answer to its last one. -/
def step (handler : Handler σ) : Stand α → σ → Stand α × σ
  | .free (.awaits call resume), state =>
    let (delivery, next) := handler call state
    (.inside delivery.answer? resume, next)
  | .inside (some answer) resume, state => (.free (resume answer), state)
  | stand, state => (stand, state)

/-- What a run came to, once it is at its end: its result, or none if it is
inside a call that is never answered. -/
def settled? : Stand α → Option (Option α)
  | .free (.done result) => some (some result)
  | .inside none _ => some none
  | _ => none

/-- One move among some runs. -/
def move (handler : Handler σ) (stands : List (Stand α)) (state : σ) :
    Move σ → List (Stand α) × σ
  | .drift changed => (stands, changed)
  | .go index =>
    match stands[index]? with
    | none => (stands, state)
    | some stand =>
      let (stand, next) := stand.step handler state
      (stands.set index stand, next)

/-- Some moves, one after the other. -/
def interleave (handler : Handler σ) :
    List (Move σ) → List (Stand α) → σ → List (Stand α) × σ
  | [], stands, state => (stands, state)
  | first :: rest, stands, state =>
    let (stands, next) := move handler stands state first
    interleave handler rest stands next

/-- The step of a run alone, given the answers to all calls. -/
def next (answers : Call → Option Answer) : Stand α → Stand α
  | .free (.awaits call resume) => .inside (answers call) resume
  | .inside (some answer) resume => .free (resume answer)
  | stand => stand

variable {handler : Handler σ} {answers : Call → Option Answer}

/-- The state of the handler has no part in where a step leads. -/
theorem step_fst (hanswers : handler.AnswersBy answers) (stand : Stand α) (state : σ) :
    (stand.step handler state).1 = stand.next answers := by
  match stand with
  | .free (.done result) => rfl
  | .free (.awaits call resume) => rw [step, next, ← hanswers call state]
  | .inside none resume => rfl
  | .inside (some answer) resume => rfl

/-- A move takes the run that it is for one step on, and leaves the others. -/
theorem move_fst (hanswers : handler.AnswersBy answers) (stands : List (Stand α)) (state : σ)
    (first : Move σ) :
    (move handler stands state first).1 =
      stands.mapIdx fun index stand =>
        if first.isFor index then stand.next answers else stand := by
  refine List.ext_getElem? fun index => ?_
  rw [List.getElem?_mapIdx]
  cases first with
  | drift changed => simp [move, Move.isFor]
  | go moved =>
    rw [move]
    cases hmoved : stands[moved]? with
    | none =>
      by_cases hindex : moved = index
      · simp [← hindex, hmoved]
      · simp [Move.isFor, hindex]
    | some stand =>
      by_cases hindex : moved = index
      · obtain ⟨hlength, rfl⟩ := List.getElem?_eq_some_iff.1 hmoved
        simp [← hindex, Move.isFor, step_fst hanswers, hlength]
      · simp [Move.isFor, hindex]

/-- After any schedule, each run stands where its own moves lead it alone. -/
theorem interleave_fst (hanswers : handler.AnswersBy answers) (schedule : List (Move σ))
    (stands : List (Stand α)) (state : σ) :
    (interleave handler schedule stands state).1 =
      stands.mapIdx fun index stand =>
        (next answers)^[schedule.countP (Move.isFor index)] stand := by
  induction schedule generalizing stands state with
  | nil => exact List.ext_getElem? fun index => by simp [interleave]
  | cons first rest ih =>
    rw [interleave, ih, move_fst hanswers, List.mapIdx_mapIdx]
    refine congrArg (List.mapIdx · stands) (funext fun index => funext fun stand => ?_)
    by_cases hfor : first.isFor index
    · simp [hfor]
    · simp [hfor]

/-- A run at its end stays there. -/
theorem next_of_settled {stand : Stand α} {result : Option α}
    (hsettled : stand.settled? = some result) : stand.next answers = stand := by
  unfold settled? at hsettled
  split at hsettled
  · rfl
  · rfl
  · cases hsettled

/-- Alone, a run is at its end after the moves that it needs and not before, and
has come to what the answers lead to. -/
theorem iterate_next_settled? (answers : Call → Option Answer) (run : Progress α) (count : Nat) :
    ((next answers)^[count] (.free run)).settled? =
      if run.moves answers ≤ count then some (run.against answers) else none := by
  induction run generalizing count with
  | done result =>
    rw [Function.iterate_fixed (next_of_settled rfl)]
    rfl
  | awaits call resume ih =>
    rw [Progress.moves, Progress.against]
    match count with
    | 0 =>
      cases answers call <;> simp [settled?]
    | count + 1 =>
      have hcalled : (next answers)^[count + 1] (.free (.awaits call resume)) =
          (next answers)^[count] (.inside (answers call) resume) :=
        Function.iterate_succ_apply _ _ _
      rw [hcalled]
      cases answers call with
      | none =>
        rw [Function.iterate_fixed (next_of_settled rfl)]
        simp [settled?]
      | some answer =>
        match count with
        | 0 => simp [settled?]
        | count + 1 =>
          have htaken : (next answers)^[count + 1] (.inside (some answer) resume) =
              (next answers)^[count] (.free (resume answer)) :=
            Function.iterate_succ_apply _ _ _
          rw [htaken, ih answer count]
          simp only [Nat.add_le_add_iff_right, Nat.add_assoc]

/-- Of runs that begin together, exactly those are at their end after a schedule
that have had the moves that they need, each with what it comes to alone. -/
theorem interleave_settled? (hanswers : handler.AnswersBy answers) (schedule : List (Move σ))
    (runs : List (Progress α)) (state : σ) :
    (interleave handler schedule (runs.map .free) state).1.map settled? =
      runs.mapIdx fun index run =>
        if run.moves answers ≤ schedule.countP (Move.isFor index)
        then some (run.against answers) else none := by
  refine List.ext_getElem? fun index => ?_
  rw [interleave_fst hanswers, List.getElem?_map, List.getElem?_mapIdx, List.getElem?_map,
    List.getElem?_mapIdx, Option.map_map, Option.map_map]
  refine congrArg (Option.map · runs[index]?) (funext fun run => ?_)
  exact iterate_next_settled? answers run _

end Stand

/-! ## Turns -/

namespace Strand

/-- What a run among others comes to, given the answers to all calls. -/
def against (answers : Call → Option Answer) : Strand α → Option α
  | .ended result => result
  | .waiting _ run => run.against answers

variable {handler : Handler σ} {answers : Call → Option Answer}

/-- Going on with a run leaves what it comes to. -/
theorem against_advance (hanswers : handler.AnswersBy answers) (run : Progress α) (state : σ) :
    (run.advance handler state).1.against answers = run.against answers := by
  induction run generalizing state with
  | done result => rfl
  | awaits call resume ih =>
    have hanswer := hanswers call state
    rw [Progress.advance, Progress.against, ← hanswer]
    generalize handler call state = delivered
    obtain ⟨delivery, next⟩ := delivered
    match delivery with
    | .never => rfl
    | .after 0 answer => exact ih answer next
    | .after (turns + 1) answer => rfl

/-- So does a turn. -/
theorem against_turn (hanswers : handler.AnswersBy answers) (strand : Strand α) (state : σ) :
    (strand.turn handler state).1.against answers = strand.against answers := by
  match strand with
  | .ended result => rfl
  | .waiting (turns + 1) run => rfl
  | .waiting 0 run => exact against_advance hanswers run state

/-- So does a turn of every run. -/
theorem against_round (hanswers : handler.AnswersBy answers) (strands : List (Strand α))
    (state : σ) :
    (round handler strands state).1.map (against answers) = strands.map (against answers) := by
  induction strands generalizing state with
  | nil => rfl
  | cons strand rest ih =>
    simp only [round, List.map_cons, against_turn hanswers, ih]

/-- So do some rounds. -/
theorem against_rounds (hanswers : handler.AnswersBy answers) (count : Nat)
    (strands : List (Strand α)) (state : σ) :
    (rounds handler count strands state).1.map (against answers) =
      strands.map (against answers) := by
  induction count generalizing strands state with
  | zero => rfl
  | succ count ih => rw [rounds, ih, against_round hanswers]

/-- A run that is led to its end comes to what the answers lead to, and so do
the others afterwards. -/
theorem against_lead (hanswers : handler.AnswersBy answers) (run : Progress α)
    (others : List (Strand α)) (state : σ) :
    (run.lead handler others state).result = run.against answers ∧
      (run.lead handler others state).others.map (against answers) =
        others.map (against answers) := by
  induction run generalizing others state with
  | done result => exact ⟨rfl, rfl⟩
  | awaits call resume ih =>
    have hanswer := hanswers call state
    rw [Progress.lead, Progress.against, ← hanswer]
    generalize handler call state = delivered
    obtain ⟨delivery, next⟩ := delivered
    cases delivery with
    | never => exact ⟨rfl, rfl⟩
    | after turns answer =>
      obtain ⟨hresult, hothers⟩ := ih answer (rounds handler turns others next).1
        (rounds handler turns others next).2
      exact ⟨hresult, hothers.trans (against_rounds hanswers turns others next)⟩

/-- Runs that take turns come to what the answers lead to. -/
theorem finishAll_fst (hanswers : handler.AnswersBy answers) (strands : List (Strand α))
    (state : σ) : (finishAll handler strands state).1 = strands.map (against answers) := by
  fun_induction finishAll handler strands state with
  | case1 state => rfl
  | case2 result rest state results final hfinished ih =>
    rw [hfinished] at ih
    rw [List.map_cons, ← ih]
    rfl
  | case3 turns run rest state waited led results final hfinished ih =>
    obtain ⟨hresult, hothers⟩ := against_lead hanswers run waited.1 waited.2
    rw [hfinished] at ih
    rw [List.map_cons, ← against_rounds hanswers turns rest state, ← hothers, ← ih]
    exact congrArg (· :: results) hresult

end Strand

/-- Runs that are played side by side come to what the answers lead to. -/
theorem Progress.playAll_fst {handler : Handler σ} {answers : Call → Option Answer}
    (hanswers : handler.AnswersBy answers) (runs : List (Progress α)) (state : σ) :
    (playAll handler runs state).1 = runs.map (against answers) := by
  rw [playAll, Strand.finishAll_fst hanswers, List.map_map]
  rfl

end FlowDesk
