/-
# The data of a flow

The data that a flow is written as is built from texts and from its free parts.
What holds of these parts, and is kept when an object is formed of them, holds of
the whole (`Compositional.flow`): the data is proper and finite when the parts
are, and it has only a few levels more.  It is given out when the parts are not nested
too deeply (`output_eq_some`).
-/

import FlowDesk.Proofs.Flow.Reading

namespace FlowDesk

/-- What is kept on the way from the parts of a flow to its data: it holds of
texts, of null and of lists of texts, and of an object one level above fields for
which it holds. -/
structure Compositional (holds : Nat → Value → Prop) : Prop where
  text : ∀ levels s, holds (levels + 1) (.text s)
  null : ∀ levels, holds (levels + 1) .null
  texts : ∀ levels given, holds (levels + 2) (.ofTexts given)
  object : ∀ levels (fields : Fields), (Table.names fields).Nodup →
    (∀ entry ∈ fields, holds levels entry.2) → holds (levels + 1) (.object fields)

namespace Compositional

variable {holds : Nat → Value → Prop} {levels : Nat}

/-- It holds of an optional text. -/
theorem ofText? (hholds : Compositional holds) (levels : Nat) (given : Option String) :
    holds (levels + 1) (.ofText? given) := by
  cases given with
  | none => exact hholds.null levels
  | some s => exact hholds.text levels s

/-- It holds of a guard when it holds of the expected value. -/
theorem guard (hholds : Compositional holds) {guard : Guard}
    (hfinite : guard.expected.isFinite = true) (hpart : holds (levels + 1) guard.expected) :
    holds (levels + 2) guard.value := by
  apply hholds.object _ _ (by simp [Table.names])
  intro entry hentry
  simp only [List.mem_cons, List.not_mem_nil, or_false] at hentry
  rcases hentry with rfl | rfl | rfl
  · exact hholds.text _ _
  · exact hholds.text _ _
  · rw [Value.finite_eq hfinite]
    exact hpart

/-- It holds of a trigger. -/
theorem trigger (hholds : Compositional holds) (levels : Nat) (trigger : Trigger) :
    holds (levels + 3) trigger.value := by
  apply hholds.object _ _ (by simp [Table.names])
  intro entry hentry
  simp only [List.mem_cons, List.not_mem_nil, or_false] at hentry
  rcases hentry with rfl | rfl
  · exact hholds.text _ _
  · exact hholds.texts _ _

/-- It holds of the fields of an action when it holds of the free parts. -/
theorem action (hholds : Compositional holds) {action : Action} (hproper : action.Proper)
    (hfinite : ∀ v ∈ action.freeParts, v.isFinite = true)
    (hparts : ∀ v ∈ action.freeParts, holds (levels + 1) v) :
    ∀ entry ∈ action.fields, holds (levels + 2) entry.2 := by
  intro entry hentry
  cases action with
  | operation operation args bindings onSuccess onFailure =>
    have hargs : (Value.object args).finite = .object args := Value.finite_object hfinite
    simp only [Action.fields, List.mem_cons, List.not_mem_nil, or_false, hargs] at hentry
    rcases hentry with rfl | rfl | rfl | rfl | rfl
    · exact hholds.text _ _
    · exact hholds.object _ _ hproper.1 fun entry hentry =>
        hparts _ (List.mem_map.2 ⟨entry, hentry, rfl⟩)
    · exact hholds.texts _ _
    · exact hholds.ofText? _ _
    · exact hholds.ofText? _ _
  | branch guard onTrue onFalse =>
    simp only [Action.fields, List.mem_cons, List.not_mem_nil, or_false] at hentry
    rcases hentry with rfl | rfl | rfl
    · exact hholds.guard (hfinite _ List.mem_cons_self) (hparts _ List.mem_cons_self)
    · exact hholds.ofText? _ _
    · exact hholds.ofText? _ _
  | response template =>
    simp only [Action.fields, List.mem_cons, List.not_mem_nil, or_false] at hentry
    rw [hentry]
    exact hholds.text _ _

/-- It holds of a step when it holds of the free parts. -/
theorem step (hholds : Compositional holds) {step : Step} (hsettled : step.Settled)
    (hfinite : ∀ v ∈ step.action.freeParts, v.isFinite = true)
    (hparts : ∀ v ∈ step.action.freeParts, holds (levels + 1) v) :
    holds (levels + 3) step.value := by
  apply hholds.object _ _ step.nodup_fields
  intro entry hentry
  rcases List.mem_append.1 hentry with hentry | hentry
  · simp only [List.mem_cons, List.not_mem_nil, or_false] at hentry
    rcases hentry with rfl | rfl | rfl | rfl
    · exact hholds.text _ _
    · exact hholds.text _ _
    · exact hholds.ofText? _ _
    · exact hholds.text _ _
  · exact hholds.action hsettled.proper hfinite hparts entry hentry

/-- It holds of a flow when it holds of the free parts. -/
theorem flow (hholds : Compositional holds) (levels : Nat) {flow : Flow}
    (hsettled : flow.Settled) (hfinite : ∀ v ∈ flow.freeParts, v.isFinite = true)
    (hparts : ∀ v ∈ flow.freeParts, holds (levels + 1) v) : holds (levels + 5) flow.value := by
  apply hholds.object _ _ (by simp [Table.names])
  intro entry hentry
  simp only [List.mem_cons, List.not_mem_nil, or_false] at hentry
  rcases hentry with rfl | rfl | rfl | rfl | rfl | rfl
  · exact hholds.text _ _
  · exact hholds.text _ _
  · exact hholds.text _ _
  · exact hholds.trigger _ _
  · exact hholds.text _ _
  · have hnames : (Table.names (flow.steps.map fun entry => (entry.1, entry.2.value))).Nodup := by
      rw [Table.names, List.map_map]
      exact hsettled.distinct
    apply hholds.object _ _ hnames
    intro entry hentry
    obtain ⟨own, hown, rfl⟩ := List.mem_map.1 hentry
    have hmem : ∀ v ∈ own.2.action.freeParts, v ∈ flow.freeParts := fun v hv =>
      List.mem_flatMap.2 ⟨own.2, List.mem_map_of_mem hown, hv⟩
    exact hholds.step (hsettled.steps own hown) (fun v hv => hfinite v (hmem v hv))
      fun v hv => hparts v (hmem v hv)

end Compositional

namespace Flow

variable {flow : Flow}

/-- A flow is given out as its data exactly when none of its free parts is nested too
deeply. -/
theorem output_eq_some {dumped : Value} :
    flow.output? = some dumped ↔
      (∀ v ∈ flow.freeParts, v.depth ≤ Value.mostLevels) ∧ flow.value = dumped := by
  simp [output?, Value.givenOut?_eq_some, Value.isShallow]

/-- Something is given out of a flow exactly when none of its free parts is nested too
deeply. -/
theorem isSome_output_iff :
    flow.output?.isSome ↔ ∀ v ∈ flow.freeParts, v.depth ≤ Value.mostLevels := by
  simp [Option.isSome_iff_exists, output_eq_some]

/-- The data of a settled flow is proper. -/
theorem proper_value (hsettled : flow.Settled)
    (hfinite : ∀ v ∈ flow.freeParts, v.isFinite = true) : flow.value.Proper := by
  have hholds : Compositional fun _ v => v.Proper :=
    ⟨fun _ _ => trivial, fun _ => trivial, fun _ given => Value.proper_ofTexts given,
      fun _ _ hnames hfields => ⟨hnames, Value.properFields_iff.2 hfields⟩⟩
  apply hholds.flow 0 hsettled hfinite
  intro v hv
  obtain ⟨step, hstep, hpart⟩ := List.mem_flatMap.1 hv
  obtain ⟨entry, hentry, rfl⟩ := List.mem_map.1 hstep
  have hhas := Action.proper_iff.1 (hsettled.steps entry hentry).proper
  exact hhas.of_mem Value.inherited_proper hpart

/-- The data of a flow is finite when its free parts are. -/
theorem isFinite_value (hsettled : flow.Settled)
    (hfinite : ∀ v ∈ flow.freeParts, v.isFinite = true) : flow.value.isFinite = true := by
  have hholds : Compositional fun _ v => v.isFinite = true :=
    ⟨fun _ _ => rfl, fun _ => rfl, fun _ given => Value.isFinite_ofTexts given,
      fun _ _ _ hfields => Value.areFiniteFields_iff.2 hfields⟩
  exact hholds.flow 0 hsettled hfinite hfinite

/-- The data of a flow has few levels more than its free parts. -/
theorem depth_value_le (hsettled : flow.Settled)
    (hfinite : ∀ v ∈ flow.freeParts, v.isFinite = true) {levels : Nat}
    (hshallow : ∀ v ∈ flow.freeParts, v.depth ≤ levels + 1) : flow.value.depth ≤ levels + 5 := by
  have hholds : Compositional fun levels v => v.depth ≤ levels := by
    refine ⟨fun levels _ => ?_, fun levels => ?_, fun levels given => ?_,
      fun levels fields _ hfields => ?_⟩
    · exact Nat.le_add_left 1 levels
    · exact Nat.le_add_left 1 levels
    · exact Nat.le_trans (Value.depth_ofTexts given) (Nat.le_add_left 2 levels)
    · rw [Value.depth]
      exact Nat.succ_le_succ (Value.fieldsDepth_le.2 hfields)
  exact hholds.flow levels hsettled hfinite hshallow

end Flow

end FlowDesk
