/-
# Inquiries in the midst of each other

A desk answers several inquiries at once.  Each is a run of its own over a
catalogue that never changes, and the operations are all that the runs share.
When what an operation answers depends on the call alone, an inquiry is answered
as if there were no others: whatever the order in which the runs go on, whatever
the operations do to their state meanwhile, and even when some calls are never
answered.

The main result is `desk_interleaves`, both for arbitrary schedules and for
inquiries that take turns.
-/

import FlowDesk.Desk
import FlowDesk.Proofs.Run.Interleaving

namespace FlowDesk

namespace Desk

variable {σ : Type}

/-- Answer inquiries in the midst of each other, as a schedule of moves has it.
There is no outcome for an inquiry whose run is not at its end. -/
def interleave (desk : Desk σ) (inquiries : List Inquiry) (schedule : List (Move σ)) (state : σ) :
    List (Option (Except Rejection (Option Response))) :=
  let tasks := inquiries.map desk.task
  let stands := (tasks.map Task.run).map Stand.free
  let ends := (Stand.interleave desk.operations.handler schedule stands state).1.map Stand.settled?
  List.zipWith (fun task result => result.map task.settle) tasks ends

/-- The moves that the run for an inquiry needs. -/
def moves (desk : Desk σ) (answers : Call → Option Answer) (inquiry : Inquiry) : Nat :=
  (desk.task inquiry).run.moves answers

variable {desk : Desk σ} {answers : Call → Option Answer}

/-- What a desk says to an inquiry follows from the answers to calls, whatever
the state of the operations. -/
theorem handle_fst (hanswers : desk.operations.handler.AnswersBy answers) (inquiry : Inquiry)
    (state : σ) :
    (desk.handle inquiry state).1 =
      (desk.task inquiry).settle ((desk.task inquiry).run.against answers) :=
  congrArg (desk.task inquiry).settle
    (Progress.result_play hanswers (desk.task inquiry).run state)

/-- After a schedule, those inquiries are answered whose runs are at their
ends. -/
theorem interleave_eq (hanswers : desk.operations.handler.AnswersBy answers)
    (inquiries : List Inquiry) (schedule : List (Move σ)) (alone state : σ) :
    desk.interleave inquiries schedule state =
      inquiries.mapIdx fun index inquiry =>
        if desk.moves answers inquiry ≤ schedule.countP (Move.isFor index)
        then some (desk.handle inquiry alone).1 else none := by
  ext1 index
  simp only [interleave, Stand.interleave_settled? hanswers, List.getElem?_zipWith,
    List.getElem?_mapIdx, List.getElem?_map, handle_fst hanswers, moves]
  cases inquiries[index]? with
  | none => rfl
  | some inquiry =>
    simp only [Option.map_some]
    split <;> rfl

end Desk

/-- **Inquiries do not disturb each other.**  When the answers of the operations
depend on the calls alone, then after any schedule exactly those inquiries are
answered that have had the moves that they need, each with the response that it
gets alone, from any state of the operations.  Inquiries that take turns are all
answered so. -/
theorem desk_interleaves {σ : Type} (desk : Desk σ) (answers : Call → Option Answer)
    (hanswers : desk.operations.handler.AnswersBy answers) (inquiries : List Inquiry)
    (alone state : σ) :
    (∀ schedule : List (Move σ), desk.interleave inquiries schedule state =
      inquiries.mapIdx fun index inquiry =>
        if desk.moves answers inquiry ≤ schedule.countP (Move.isFor index)
        then some (desk.handle inquiry alone).1 else none) ∧
      (desk.handleAll inquiries state).1 =
        inquiries.map fun inquiry => (desk.handle inquiry alone).1 := by
  refine ⟨fun schedule => Desk.interleave_eq hanswers inquiries schedule alone state, ?_⟩
  have hresults := Progress.playAll_fst hanswers ((inquiries.map desk.task).map Task.run) state
  show List.zipWith Task.settle _ (Progress.playAll desk.operations.handler _ state).1 = _
  rw [hresults, List.map_map, List.map_map, List.zipWith_map, List.zipWith_self]
  exact List.map_congr_left fun inquiry _ => (Desk.handle_fst hanswers inquiry alone).symm

/-- Two callers ask at once who they are.  The operation counts its calls, takes
its time, and meanwhile its count is changed: each caller is told the own name. -/
theorem desk_interleaves_callers :
    let me : Operation Nat := ⟨"me", "", .null, fun _ => .valid fun caller count =>
      (.after count (.success [("who", caller)]), count + 1)⟩
    let ask : Step := ⟨"ask", "ask", none, .operation "me" [] ["who"] (some "say") none⟩
    let say : Step := ⟨"say", "say", none, .response "you are $\x7bwho\x7d"⟩
    let flow : Flow := ⟨"who", "who", "", .none, "ask", [("ask", ask), ("say", say)]⟩
    let desk : Desk Nat := ⟨⟨[flow], by decide⟩, ⟨[me], by decide⟩, 5, none, true⟩
    let inquiry (name : String) : Inquiry := ⟨.text "", .text name, .text "", .text "who"⟩
    let texts (outcomes : List (Option (Except Rejection (Option Response)))) :=
      outcomes.map fun outcome => outcome.map fun | .ok (some response) => response.text | _ => none
    let answers : Call → Option Answer := fun call =>
      some (if call.operation = "me" then .success [("who", call.caller)]
        else Operations.notImplemented call.operation)
    desk.operations.handler.AnswersBy answers ∧
      texts (desk.interleave [inquiry "ann", inquiry "bob"]
        [.go 0, .go 1, .drift 7, .go 1, .go 0] 0) =
          [some (some "you are ann"), some (some "you are bob")] := by
  intro me ask say flow desk inquiry texts answers
  have hanswers : desk.operations.handler.AnswersBy answers := by
    intro call state
    by_cases hme : call.operation = "me"
    · simp [desk, answers, hme, Operations.handler, Operations.find?, me, Delivery.answer?]
    · simp [desk, answers, hme, Operations.handler, Operations.find?, me, Delivery.answer?,
        Delivery.now, Ne.symm hme]
  refine ⟨hanswers, ?_⟩
  rw [(desk_interleaves desk answers hanswers _ 0 0).1]
  decide +kernel

end FlowDesk
