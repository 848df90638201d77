/-
# What is given out is read back

Reading settles a flow: ids and names are filled in, unknown fields are dropped and
defaults are taken.  Giving it out writes every field.  The two agree: a flow that was
read from finite data, of whatever mixture of given, null and missing fields, is read
again from what is given out of it (`output_reads_back`).  Arguments and expected values
are read however deeply they are nested, but they are not given out beyond a fixed
number of levels, and then there is nothing to read back.
-/

import FlowDesk.Proofs.Flow.Writing

namespace FlowDesk.Flow

variable {flow : Flow}

/-- **What is given out of a flow is read as that flow.**

Let a flow be read from an object in which no name is held twice and every number is
finite.  Whatever is given out of the flow is read as the same flow: with the same
fields, and with the same steps under the same keys in the same order.  Something is given
out exactly if no argument and no expected value is nested too deeply, so in particular
if the object that the flow was read from is not. -/
theorem output_reads_back {raw : Value} (hproper : raw.Proper) (hfinite : raw.isFinite = true)
    (hread : read raw = .ok flow) :
    (∀ dumped, flow.output? = some dumped → read dumped = .ok flow) ∧
      (flow.output?.isSome ↔ ∀ v ∈ flow.freeParts, v.depth ≤ Value.mostLevels) ∧
      (raw.depth ≤ Value.mostLevels → flow.output?.isSome) := by
  have hparts := freeParts_of_read Value.inherited_isFinite hfinite hread
  refine ⟨fun dumped hgiven => ?_, isSome_output_iff, fun hshallow => ?_⟩
  · obtain ⟨-, rfl⟩ := output_eq_some.1 hgiven
    exact read_value (settled_of_read hproper hread) hparts
  · have hinherited := Value.inherited_depth (show 2 ≤ Value.mostLevels by decide)
    exact isSome_output_iff.2 (freeParts_of_read hinherited hshallow hread)

/-- A step that has another id than its key, no name and fields of no meaning is read back
from what is given out of it.  With three hundred lists around an argument, the flow is
read as well, but nothing is given out of it. -/
theorem output_reads_back_nested :
    let step (argument : Value) : Value := .object
      [ ("operation", .text "find"), ("id", .text "look"), ("name", .int 0), ("note", .null),
        ("type", .text "operation"), ("on_failure", .text "apologize"),
        ("args", .object [("query", argument), ("limit", .null)]), ("next_step", .null) ]
    let raw (argument : Value) : Value := .object
      [ ("steps", .object [("first", step argument)]), ("initial_step", .text "first"),
        ("id", .text "search"), ("version", .int 2) ]
    let flow (argument : Value) : Flow :=
      ⟨"search", "", "", .none, "first",
        [("first", ⟨"look", "look", none,
          .operation "find" [("query", argument), ("limit", .null)] [] none (some "apologize")⟩)]⟩
    let lists (levels : Nat) : Value := Nat.repeat (fun v => .list [v]) levels (.text "deep")
    read (raw (.text "Anna")) = .ok (flow (.text "Anna")) ∧
      (∃ dumped, (flow (.text "Anna")).output? = some dumped ∧
        read dumped = .ok (flow (.text "Anna"))) ∧
      read (raw (lists 300)) = .ok (flow (lists 300)) ∧ (flow (lists 300)).output? = none := by
  intro step raw flow lists
  have hread : ∀ argument, read (raw argument) = .ok (flow argument) := fun argument => rfl
  have hproper : ∀ argument : Value, argument.Proper → (raw argument).Proper := by
    intro argument hargument
    simp [raw, step, Value.Proper, Value.ProperFields, Table.names, hargument]
  have hfinite : ∀ argument : Value, argument.isFinite = true → (raw argument).isFinite = true := by
    intro argument hargument
    simp [raw, step, Value.isFinite, Value.areFiniteFields, hargument]
  obtain ⟨hback, hgiven, -⟩ := output_reads_back (hproper (.text "Anna") trivial)
    (hfinite (.text "Anna") rfl) (hread (.text "Anna"))
  obtain ⟨dumped, hdumped⟩ := Option.isSome_iff_exists.1 (hgiven.2 (by decide))
  have hlists : ∀ levels, (lists levels).Proper := by
    intro levels
    induction levels with
    | zero => trivial
    | succ levels ih => exact ⟨ih, trivial⟩
  obtain ⟨-, hgivenNested, -⟩ := output_reads_back (hproper _ (hlists 300))
    (hfinite (lists 300) (by decide +kernel)) (hread _)
  refine ⟨hread _, ⟨dumped, hdumped, hback dumped hdumped⟩, hread _, ?_⟩
  rw [← Option.not_isSome_iff_eq_none, hgivenNested]
  exact fun hshallow => absurd (hshallow (lists 300) List.mem_cons_self) (by decide +kernel)

end FlowDesk.Flow
