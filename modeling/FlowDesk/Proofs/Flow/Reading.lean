/-
# Reading what was written

A flow that was read has a settled shape: its steps have distinct keys, a step
without a name has no id either, and no object in its free parts holds a name
twice (`Flow.settled_of_read`).  A settled flow is read back from the data that it
is written as, if the numbers in it are finite (`Flow.read_value`).
-/

import FlowDesk.Flow.Reader
import FlowDesk.Flow.Writer
import FlowDesk.Proofs.Form.Valid
import FlowDesk.Proofs.Value.Shape

namespace FlowDesk

open Checked

/-- The free parts of an action are proper. -/
def Action.Proper : Action → Prop
  | .operation _ args .. => (Value.object args).Proper
  | .branch guard .. => guard.expected.Proper
  | .response _ => True

/-- The shape that a step has when it was read: it is named unless it has no id,
and its free parts are proper. -/
structure Step.Settled (step : Step) : Prop where
  named : step.name = "" → step.id = ""
  proper : step.action.Proper

/-- The shape that a flow has when it was read: its steps have distinct keys and
are settled. -/
structure Flow.Settled (flow : Flow) : Prop where
  distinct : flow.steps.names.Nodup
  steps : ∀ entry ∈ flow.steps, entry.2.Settled

/-! ## Reading back -/

/-- A guard is read back from its data. -/
theorem Guard.read_value {guard : Guard} (hfinite : guard.expected.isFinite = true) :
    Guard.read guard.value = .valid guard := by
  have hoperator : choice operatorChoices (.text guard.operator.name) = .valid guard.operator := by
    cases guard.operator <;> simp [choice, operatorChoices, Operator.all, Operator.name, Table.at?]
  have hfields := Value.finite_eq hfinite
  simp only [Guard.read, Guard.value, hfields]
  rw [required_eq_valid.2 ⟨.text guard.field, by simp [Table.at?], text_eq_valid.2 rfl⟩,
    required_eq_valid.2 ⟨.text guard.operator.name, by simp [Table.at?], hoperator⟩,
    optional_eq_valid.2 (.inl ⟨guard.expected, by simp [Table.at?], anything_eq _⟩)]
  rfl

/-- A trigger is read back from its data. -/
theorem Trigger.read_value (trigger : Trigger) : Trigger.read trigger.value = .valid trigger := by
  have hkind : choice kindChoices (.text trigger.kind.name) = .valid trigger.kind := by
    cases trigger.kind <;> simp [choice, kindChoices, TriggerKind.name, Table.at?]
  simp only [Trigger.read, Trigger.value]
  rw [optional_eq_valid.2 (.inl ⟨.text trigger.kind.name, by simp [Table.at?], hkind⟩),
    optional_eq_valid.2 (.inl ⟨.ofTexts trigger.keywords, by simp [Table.at?], texts_ofTexts _⟩)]
  rfl

namespace Step

/-- The fields with which a step is written. -/
def fields (step : Step) : Fields :=
  [ ("id", .text step.id),
    ("name", .text step.name),
    ("next_step", .ofText? step.next),
    ("type", .text step.action.tag) ] ++ step.action.fields

/-- A field of a step by its name. -/
theorem at?_fields (step : Step) (name : String) :
    Table.at? step.fields name =
      if "id" = name then some (.text step.id)
      else if "name" = name then some (.text step.name)
      else if "next_step" = name then some (.ofText? step.next)
      else if "type" = name then some (.text step.action.tag)
      else Table.at? step.action.fields name := rfl

/-- A successor is read back. -/
theorem successor_eq {fields : Fields} {name : String} (target : Option String)
    (hfield : Table.at? fields name = some (.ofText? target)) :
    successor fields name = .valid target :=
  optional_eq_valid.2 (.inl ⟨_, hfield, nullable_ofText? target⟩)

/-- The action of a step is read back from the fields of the step. -/
theorem readAction_fields (step : Step) (hfinite : ∀ v ∈ step.action.freeParts, v.isFinite = true) :
    readAction step.action.tag step.fields = .valid step.action := by
  have hfields := step.at?_fields
  cases haction : step.action with
  | operation operation args bindings onSuccess onFailure =>
    rw [haction] at hfields hfinite
    have hargs : (Value.object args).finite = .object args := Value.finite_object hfinite
    simp only [Action.fields, hargs] at hfields
    rw [readAction, Action.tag, if_pos rfl]
    rw [required_eq_valid.2 ⟨.text operation, by simp [hfields, Table.at?], text_eq_valid.2 rfl⟩,
      optional_eq_valid.2
        (.inl ⟨.object args, by simp [hfields, Table.at?], fields_eq_valid.2 rfl⟩),
      optional_eq_valid.2 (.inl ⟨.ofTexts bindings, by simp [hfields, Table.at?], texts_ofTexts _⟩),
      successor_eq onSuccess (by simp [hfields, Table.at?]),
      successor_eq onFailure (by simp [hfields, Table.at?])]
    rfl
  | branch guard onTrue onFalse =>
    rw [haction] at hfields hfinite
    simp only [Action.fields] at hfields
    rw [readAction, Action.tag, if_neg (by decide), if_pos rfl]
    rw [required_eq_valid.2 ⟨guard.value, by simp [hfields, Table.at?],
        Guard.read_value (hfinite _ List.mem_cons_self)⟩,
      successor_eq onTrue (by simp [hfields, Table.at?]),
      successor_eq onFalse (by simp [hfields, Table.at?])]
    rfl
  | response template =>
    rw [haction] at hfields
    simp only [Action.fields] at hfields
    rw [readAction, Action.tag, if_neg (by decide), if_neg (by decide)]
    rw [optional_eq_valid.2
      (.inl ⟨.text template, by simp [hfields, Table.at?], text_eq_valid.2 rfl⟩)]
    rfl

/-- A settled step has its name filled in already. -/
theorem withName_fields {step : Step} (hsettled : step.Settled) :
    withName step.fields = step.fields := by
  have hname : Table.at? step.fields "name" = some (.text step.name) := by
    simp [at?_fields]
  have hid : Table.at? step.fields "id" = some (.text step.id) := by
    simp [at?_fields]
  rw [withName, hname]
  by_cases hempty : step.name = ""
  · have hsame : step.id = step.name := by rw [hsettled.named hempty, hempty]
    simp only [hempty, Value.truthy]
    rw [if_neg (by decide), hid, Option.getD_some, hsame]
    simp [fields, Table.put]
  · simp [Value.truthy, hempty]

/-- A step is read back from its data. -/
theorem read_value {step : Step} (hsettled : step.Settled)
    (hfinite : ∀ v ∈ step.action.freeParts, v.isFinite = true) :
    Step.read step.value = .valid step := by
  have htag : Table.at? step.fields "type" = some (.text step.action.tag) := by
    simp [at?_fields]
  have hknown : tags.contains step.action.tag = true := by
    cases step.action <;> simp [tags, Action.tag]
  have hread : readFields step.action.tag step.fields = .valid step := by
    unfold readFields
    dsimp only
    rw [withName_fields hsettled, readAction_fields step hfinite,
      required_eq_valid.2 ⟨.text step.id, by simp [at?_fields], text_eq_valid.2 rfl⟩,
      required_eq_valid.2 ⟨.text step.name, by simp [at?_fields], text_eq_valid.2 rfl⟩,
      successor_eq step.next (by simp [at?_fields])]
    rfl
  change Step.read (.object step.fields) = _
  simp only [Step.read, htag, if_pos hknown, within_eq_valid, hread]

/-- The fields with which a step is written have distinct names. -/
theorem nodup_fields (step : Step) : (Table.names step.fields).Nodup := by
  cases haction : step.action <;> simp [fields, haction, Action.fields, Table.names]

/-- The data of a step gives its id, so that its key is not filled in. -/
theorem withKey_value (key : String) (step : Step) : Flow.withKey key step.value = step.value := by
  have hput : Table.putAll [("id", .text key)] step.fields = step.fields := by
    have hfirst : Table.putAll [("id", .text key)] step.fields =
        Table.putAll [("id", .text step.id)] step.fields.tail := by
      simp [fields, Table.putAll, Table.put]
    rw [hfirst]
    exact Table.putAll_eq_append step.nodup_fields
  exact congrArg Value.object hput

end Step

namespace Flow

/-- The fields with which a flow is written. -/
def fields (flow : Flow) : Fields :=
  [ ("id", .text flow.id),
    ("name", .text flow.name),
    ("description", .text flow.description),
    ("trigger", flow.trigger.value),
    ("initial_step", .text flow.initialStep),
    ("steps", .object (flow.steps.map fun entry => (entry.1, entry.2.value))) ]

/-- A flow is read back from its data. -/
theorem read_value {flow : Flow} (hsettled : flow.Settled)
    (hfinite : ∀ v ∈ flow.freeParts, v.isFinite = true) : Flow.read flow.value = .ok flow := by
  obtain ⟨steps, hsteps⟩ :
      ∃ steps : Fields, flow.steps.map (fun entry => (entry.1, entry.2.value)) = steps := ⟨_, rfl⟩
  have hat : Table.at? flow.fields "steps" = some (.object steps) := by
    simp [fields, Table.at?, hsteps]
  have hkeys : withKeys steps = steps := by
    rw [← hsteps, withKeys, List.map_map]
    exact List.map_congr_left fun entry _ => by simp [Step.withKey_value]
  have hput : Table.put flow.fields "steps" (.object steps) = flow.fields := by
    simp [fields, Table.put, hsteps]
  have hentries : entries Step.read steps = .valid flow.steps := by
    rw [← hsteps]
    refine entries_map fun entry hentry => Step.read_value (hsettled.steps entry hentry) ?_
    intro v hv
    exact hfinite v (List.mem_flatMap.2 ⟨entry.2, List.mem_map_of_mem hentry, hv⟩)
  have hread : readFields flow.fields = .valid flow := by
    unfold readFields
    dsimp only
    rw [required_eq_valid.2 ⟨.text flow.id, by simp [fields, Table.at?], text_eq_valid.2 rfl⟩,
      optional_eq_valid.2 (.inl ⟨.text flow.name, by simp [fields, Table.at?],
        text_eq_valid.2 rfl⟩),
      optional_eq_valid.2 (.inl ⟨.text flow.description, by simp [fields, Table.at?],
        text_eq_valid.2 rfl⟩),
      optional_eq_valid.2 (.inl ⟨flow.trigger.value, by simp [fields, Table.at?],
        Trigger.read_value _⟩),
      required_eq_valid.2 ⟨.text flow.initialStep, by simp [fields, Table.at?],
        text_eq_valid.2 rfl⟩,
      optional_eq_valid.2 (.inl ⟨.object steps, hat,
        andThen_eq_valid.2 ⟨steps, fields_eq_valid.2 rfl, hentries⟩⟩)]
    rfl
  change Flow.read (.object flow.fields) = _
  simp only [Flow.read, hat, Option.getD_some, hkeys, hput, hread]

end Flow

/-! ## What reading ensures -/

/-- A property of the free parts of an action, the arguments taken as a whole. -/
def Action.Has (holds : Value → Prop) : Action → Prop
  | .operation _ args .. => holds (.object args)
  | .branch guard .. => holds guard.expected
  | .response _ => True

/-- The free parts of an action are proper when they are so as a whole. -/
theorem Action.proper_iff {action : Action} : action.Proper ↔ action.Has Value.Proper := by
  cases action <;> exact Iff.rfl

/-- Each free part of an action inherits from the arguments. -/
theorem Action.Has.of_mem {holds : Value → Prop} (hinherited : Value.Inherited holds)
    {action : Action} (hhas : action.Has holds) {v : Value} (hv : v ∈ action.freeParts) :
    holds v := by
  cases action with
  | operation operation args bindings onSuccess onFailure =>
    obtain ⟨entry, hentry, rfl⟩ := List.mem_map.1 hv
    exact hinherited.field hhas hentry
  | branch guard onTrue onFalse =>
    rw [List.mem_singleton.1 hv]
    exact hhas
  | response template => cases hv

section Inherited

variable {holds : Value → Prop} (hinherited : Value.Inherited holds)
include hinherited

/-- What a guard expects inherits from the data that the guard is read from. -/
theorem Guard.has_of_read {v : Value} {guard : Guard} (hv : holds v)
    (hread : Guard.read v = .valid guard) : holds guard.expected := by
  cases v with
  | object given =>
    simp only [Guard.read, seq_eq_valid, map_eq_valid, optional_eq_valid] at hread
    obtain ⟨_, expected, ⟨_, operator, ⟨field, -, rfl⟩, -, rfl⟩, hexpected, rfl⟩ := hread
    rcases hexpected with ⟨found, hfound, hvalid⟩ | ⟨-, rfl⟩
    · cases hvalid
      exact hinherited.at? hv hfound
    · exact hinherited.null
  | _ => cases hread

/-- The action of a step inherits from the fields that it is read from. -/
theorem Action.has_of_read {tag : String} {given : Fields} {action : Action}
    (hgiven : holds (.object given)) (hread : Step.readAction tag given = .valid action) :
    action.Has holds := by
  unfold Step.readAction at hread
  split at hread
  · simp only [seq_eq_valid, map_eq_valid, optional_eq_valid] at hread
    obtain ⟨_, _, ⟨_, _, ⟨_, _, ⟨_, args, ⟨_, -, rfl⟩, hargs, rfl⟩, -, rfl⟩, -, rfl⟩, -, rfl⟩ :=
      hread
    rcases hargs with ⟨found, hfound, hvalid⟩ | ⟨-, rfl⟩
    · have hfound' := hinherited.at? hgiven hfound
      rwa [fields_eq_valid.1 hvalid] at hfound'
    · exact hinherited.empty
  · split at hread
    · simp only [seq_eq_valid, map_eq_valid, required_eq_valid] at hread
      obtain ⟨_, _, ⟨_, _, ⟨guard, ⟨found, hfound, hvalid⟩, rfl⟩, -, rfl⟩, -, rfl⟩ := hread
      exact Guard.has_of_read hinherited (hinherited.at? hgiven hfound) hvalid
    · simp only [map_eq_valid] at hread
      obtain ⟨_, -, rfl⟩ := hread
      trivial

/-- Filling in a name passes on what was inherited. -/
theorem Step.has_withName {given : Fields} (hgiven : holds (.object given)) :
    holds (.object (withName given)) := by
  have hfilled : holds (.object
      (Table.put given "name" ((Table.at? given "id").getD (.text "")))) := by
    cases hid : Table.at? given "id" with
    | none => exact hinherited.putText "name" "" hgiven
    | some id => exact hinherited.put "name" hgiven hgiven (Table.mem_of_at?_eq_some hid)
  unfold withName
  split
  · split
    · exact hgiven
    · exact hfilled
  · exact hfilled

/-- Filling in the key passes on what was inherited. -/
theorem Flow.has_withKey {v : Value} (hv : holds v) (key : String) : holds (withKey key v) := by
  cases v with
  | object given =>
    exact hinherited.putAll (hinherited.putText "id" key hinherited.empty) hv fun _ hentry => hentry
  | _ => exact hv

end Inherited

namespace Step

/-- A step takes a name from its id unless it gives one that is not empty. -/
theorem withName_spec (given : Fields) :
    Table.at? (withName given) "id" = Table.at? given "id" ∧
      ((∃ named, Table.at? (withName given) "name" = some named ∧ named.truthy = true) ∨
        Table.at? (withName given) "name" = some ((Table.at? given "id").getD (.text ""))) := by
  unfold withName
  split
  · rename_i named hnamed
    split
    · rename_i htruthy
      exact ⟨rfl, .inl ⟨named, hnamed, htruthy⟩⟩
    · simp [Table.at?_put]
  · simp [Table.at?_put]

/-- A step is read from fields with a tag. -/
theorem fields_of_read {v : Value} {step : Step} (hread : Step.read v = .valid step) :
    ∃ given tag, v = .object given ∧ readFields tag given = .valid step := by
  cases v with
  | object given =>
    simp only [Step.read] at hread
    split at hread
    · cases hread
    · rename_i tag htag
      split at hread
      · exact ⟨given, tag, rfl, within_eq_valid.1 hread⟩
      · cases hread
    · cases hread
  | _ => cases hread

/-- A step that was read is named unless it has no id, and its action inherits from the
data that it was read from. -/
theorem of_read {holds : Value → Prop} (hinherited : Value.Inherited holds) {v : Value}
    {step : Step} (hv : holds v) (hread : Step.read v = .valid step) :
    (step.name = "" → step.id = "") ∧ step.action.Has holds := by
  obtain ⟨given, tag, rfl, hfields⟩ := fields_of_read hread
  simp only [readFields, seq_eq_valid, map_eq_valid, required_eq_valid, text_eq_valid] at hfields
  obtain ⟨_, action, ⟨_, next, ⟨_, name, ⟨id, ⟨_, hid, rfl⟩, rfl⟩, ⟨_, hname, rfl⟩, rfl⟩, -, rfl⟩,
    haction, rfl⟩ := hfields
  refine ⟨fun (hempty : name = "") => ?_,
    Action.has_of_read hinherited (has_withName hinherited hv) haction⟩
  obtain ⟨hsame, ⟨named, hnamed, htruthy⟩ | hfilled⟩ := withName_spec given
  · rw [hname] at hnamed
    cases hnamed
    simp [Value.truthy, hempty] at htruthy
  · rw [← hsame, hid, hname] at hfilled
    cases hfilled
    exact hempty

/-- A step that is read from proper data is settled. -/
theorem settled_of_read {v : Value} {step : Step} (hproper : v.Proper)
    (hread : Step.read v = .valid step) : step.Settled :=
  have ⟨hnamed, hhas⟩ := of_read Value.inherited_proper hproper hread
  ⟨hnamed, Action.proper_iff.2 hhas⟩

end Step

namespace Flow

/-- The steps of a flow are read from the object of raw steps, with the keys filled in. -/
theorem steps_of_read {raw : Value} {flow : Flow} (hread : Flow.read raw = .ok flow) :
    ∃ given steps : Fields, raw = .object given ∧
      (Table.at? given "steps").getD (.object []) = .object steps ∧
      entries Step.read (withKeys steps) = .valid flow.steps := by
  cases raw with
  | object given =>
    obtain ⟨steps, hsteps, hfields⟩ : ∃ steps : Fields,
        (Table.at? given "steps").getD (.object []) = .object steps ∧
        readFields (Table.put given "steps" (.object (withKeys steps))) = .valid flow := by
      simp only [Flow.read] at hread
      split at hread
      · rename_i steps hsteps
        split at hread
        · rename_i found hvalid
          cases hread
          exact ⟨steps, hsteps, hvalid⟩
        · cases hread
      · cases hread
    refine ⟨given, steps, rfl, hsteps, ?_⟩
    simp only [readFields, seq_eq_valid, map_eq_valid, optional_eq_valid, Table.at?_put, if_true,
      andThen_eq_valid, fields_eq_valid] at hfields
    obtain ⟨_, table, ⟨_, start, ⟨_, trigger, ⟨_, description, ⟨_, name, ⟨id, -, rfl⟩, -, rfl⟩, -,
      rfl⟩, -, rfl⟩, -, rfl⟩, hvalid, rfl⟩ := hfields
    rcases hvalid with ⟨found, hfound, raw, hraw, hvalid⟩ | ⟨hnone, -⟩
    · rw [hraw] at hfound
      cases hfound
      exact hvalid
    · cases hnone
  | _ => cases hread

/-- Every step of a flow is read from data that inherits from the data of the flow. -/
theorem step_of_read {holds : Value → Prop} (hinherited : Value.Inherited holds) {raw : Value}
    {flow : Flow} (hraw : holds raw) (hread : Flow.read raw = .ok flow) :
    ∀ entry ∈ flow.steps, ∃ v, holds v ∧ Step.read v = .valid entry.2 := by
  obtain ⟨given, steps, rfl, hsteps, hentries⟩ := steps_of_read hread
  have hheld : holds (.object steps) := hsteps ▸ hinherited.getD hraw hinherited.empty
  intro entry hentry
  obtain ⟨v, hv, hstep⟩ := mem_entries hentries entry hentry
  obtain ⟨own, hown, heq⟩ := List.mem_map.1 hv
  obtain ⟨-, rfl⟩ := Prod.mk.inj heq
  exact ⟨_, has_withKey hinherited (hinherited.field hheld hown) own.1, hstep⟩

/-- The free parts of a flow inherit from the data that it was read from. -/
theorem freeParts_of_read {holds : Value → Prop} (hinherited : Value.Inherited holds)
    {raw : Value} {flow : Flow} (hraw : holds raw) (hread : Flow.read raw = .ok flow) :
    ∀ v ∈ flow.freeParts, holds v := by
  intro v hv
  obtain ⟨step, hstep, hpart⟩ := List.mem_flatMap.1 hv
  obtain ⟨entry, hentry, rfl⟩ := List.mem_map.1 hstep
  obtain ⟨given, hgiven, hown⟩ := step_of_read hinherited hraw hread entry hentry
  exact (Step.of_read hinherited hgiven hown).2.of_mem hinherited hpart

/-- A flow that is read from proper data is settled. -/
theorem settled_of_read {raw : Value} {flow : Flow} (hproper : raw.Proper)
    (hread : Flow.read raw = .ok flow) : flow.Settled := by
  refine ⟨?_, fun entry hentry => ?_⟩
  · obtain ⟨given, steps, rfl, hsteps, hentries⟩ := steps_of_read hread
    have hstepsProper : (Value.object steps).Proper :=
      hsteps ▸ Value.inherited_proper.getD hproper Value.inherited_proper.empty
    rw [names_entries hentries, withKeys, Table.names, List.map_map]
    exact hstepsProper.1
  · obtain ⟨v, hv, hstep⟩ := step_of_read Value.inherited_proper hproper hread entry hentry
    exact Step.settled_of_read hv hstep

end Flow

end FlowDesk
