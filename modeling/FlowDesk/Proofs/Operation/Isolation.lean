/-
# Operations see one advisor's part of the book

Every standard operation asks the book for its caller only.  Over two books
that agree for the caller each operation accepts the same arguments and acts in
the same way (`Operation.Alike`), and so does the table of all of them
(`handler_eq`).
-/

import FlowDesk.Operation.Standard
import FlowDesk.Proofs.Book.Isolation
import Mathlib.Data.List.Forall2

namespace FlowDesk

open Calendar

/-! ## Acts on books that agree -/

section

variable {caller : Value} {first second : Book} (hagree : Book.AgreeFor caller first second)

include hagree

/-- The same name is found in a message. -/
theorem Extraction.run_eq (message : String) :
    run first message caller = run second message caller := by
  unfold run
  rw [hagree.clientsOf_eq]

/-- The same profile is found. -/
theorem Profile.run_eq (args : Args) : run first args caller = run second args caller := by
  unfold run
  rw [hagree.findClient_eq]

/-- The same clients are found. -/
theorem Search.run_eq (args : Args) : run first args caller = run second args caller := by
  unfold run
  rw [hagree.clientsOf_eq]

/-- Meetings are shown in the same way, their clients included. -/
theorem Meeting.shown_eq (region : Region) :
    shown first region caller = shown second region caller := by
  funext meeting
  have hclient : clientInfo first caller meeting = clientInfo second caller meeting := by
    unfold clientInfo
    rw [hagree.client?_eq]
  unfold shown
  rw [hclient]

/-- The same meetings are listed for a range of dates. -/
theorem Range.run_eq (region : Region) (clock : Moment) (expression : String) :
    run first region clock expression caller = run second region clock expression caller := by
  unfold run
  simp only [hagree.meetingsOf_eq, Meeting.shown_eq hagree region]

/-- The same meetings are listed for a client. -/
theorem WithClient.run_eq (region : Region) (name : String) :
    run first region name caller = run second region name caller := by
  unfold run
  simp only [hagree.findClient_eq, hagree.meetingsOf_eq, Meeting.shown_eq hagree region]

/-- The same dialog is prepared for a new meeting. -/
theorem Draft.run_eq (region : Region) (args : Args) :
    run first region args caller = run second region args caller := by
  have hclient : client first caller args = client second caller args := by
    unfold client
    simp only [hagree.client?_eq, hagree.findClient_eq]
  unfold run
  rw [hclient]

/-- The same dialog is prepared for a changed meeting. -/
theorem Edit.run_eq (region : Region) (args : Args) :
    run first region args caller = run second region args caller := by
  unfold run
  simp only [hagree.meeting?_eq, Meeting.shown_eq hagree region]

end

/-! ## Operations that are alike -/

variable {σ : Type}

namespace Operation

/-- Two operations of one name accept the same arguments, and act in the same
way for a caller. -/
structure Alike (caller : Value) (first second : Operation σ) : Prop where
  name : first.name = second.name
  prepare : ∀ args, (first.prepare args).map (· caller) = (second.prepare args).map (· caller)

/-- An operation is like itself. -/
theorem Alike.refl (caller : Value) (operation : Operation σ) : operation.Alike caller operation :=
  ⟨rfl, fun _ => rfl⟩

/-- Two operations that read their arguments in the same way are alike when
their acts are. -/
theorem Alike.of_act {α : Type} {caller : Value} {first second : Operation σ}
    (hname : first.name = second.name) {read : Value → Checked α}
    {act act' : α → Value → Act σ} (hfirst : first.prepare = fun v => (read v).map act)
    (hsecond : second.prepare = fun v => (read v).map act')
    (hact : ∀ args, act args caller = act' args caller) : first.Alike caller second := by
  refine ⟨hname, fun args => ?_⟩
  rw [hfirst, hsecond]
  dsimp only
  cases read args with
  | valid v => exact congrArg Checked.valid (hact v)
  | invalid problems => rfl

end Operation

namespace Operations

/-- Tables of operations that are alike answer a call in the same way. -/
theorem handler_eq_of_alike {first second : Operations σ} {call : Call}
    (halike : List.Forall₂ (Operation.Alike call.caller) first.all second.all) (state : σ) :
    first.handler call state = second.handler call state := by
  have hfind : Option.Rel (Operation.Alike call.caller) (first.find? call.operation)
      (second.find? call.operation) := by
    unfold find?
    generalize first.all = own at halike
    generalize second.all = other at halike
    induction halike with
    | nil => exact .none
    | cons hhead _ ih =>
      simp only [List.find?_cons, hhead.name]
      split
      · exact .some hhead
      · exact ih
  unfold handler
  generalize first.find? call.operation = own at hfind ⊢
  generalize second.find? call.operation = other at hfind ⊢
  cases hfind with
  | none => rfl
  | some hfound =>
    rename_i own other
    have hargs := hfound.prepare call.args
    dsimp only
    cases hown : own.prepare call.args with
    | valid act =>
      cases hother : other.prepare call.args with
      | valid act' =>
        rw [hown, hother] at hargs
        exact congrFun (Checked.valid.inj hargs) state
      | invalid problems =>
        rw [hown, hother] at hargs
        cases hargs
    | invalid problems =>
      cases hother : other.prepare call.args with
      | valid act' =>
        rw [hown, hother] at hargs
        cases hargs
      | invalid problems' =>
        rw [hown, hother] at hargs
        cases hargs
        rfl

end Operations

/-! ## The standard operations -/

namespace Surroundings

/-- The standard operations over books that agree for a caller are alike. -/
theorem operationList_alike (around : Surroundings σ) {caller : Value} {first second : Book}
    (hagree : Book.AgreeFor caller first second) :
    List.Forall₂ (Operation.Alike caller) ({ around with book := first }).operationList
      ({ around with book := second }).operationList := by
  refine .cons ?_ (.cons ?_ (.cons ?_ (.cons (.refl _ _) (.cons (.refl _ _) (.cons ?_ (.cons ?_
    (.cons ?_ (.cons ?_ .nil))))))))
  · exact .of_act rfl rfl rfl fun message =>
      congrArg Operation.pureAct (Extraction.run_eq hagree message)
  · exact .of_act rfl rfl rfl fun args => congrArg Operation.pureAct (Profile.run_eq hagree args)
  · exact .of_act rfl rfl rfl fun args => congrArg Operation.pureAct (Search.run_eq hagree args)
  · exact .of_act rfl rfl rfl fun expression =>
      congrArg Operation.settledAct (Range.run_eq hagree around.region around.clock expression)
  · exact .of_act rfl rfl rfl fun name =>
      congrArg Operation.settledAct (WithClient.run_eq hagree around.region name)
  · exact .of_act rfl rfl rfl fun args =>
      congrArg Operation.settledAct (Draft.run_eq hagree around.region args)
  · exact .of_act rfl rfl rfl fun args =>
      congrArg Operation.settledAct (Edit.run_eq hagree around.region args)

/-- The standard operations over books that agree for the caller of a call
answer it in the same way. -/
theorem handler_eq (around : Surroundings σ) {first second : Book} {call : Call}
    (hagree : Book.AgreeFor call.caller first second) (state : σ) :
    ({ around with book := first }).operations.handler call state =
      ({ around with book := second }).operations.handler call state :=
  Operations.handler_eq_of_alike (around.operationList_alike hagree) state

end Surroundings

end FlowDesk
