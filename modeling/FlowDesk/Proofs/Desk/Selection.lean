/-
# What the selection of a flow depends on

The first flow that is heard in a message answers it.  Two things follow for whoever
writes messages and flows.

The case of the letters of ASCII does not matter, neither in the message nor in a keyword
(`Flow.heardIn_iff_of_respelled`).  This is not obvious where texts are lowered, because the
lower-case form of a character may depend on its neighbours, whose case has changed.

And a flow keeps its messages when others are registered beside it, unless one of these
stands before it and is heard itself (`selection_stable`).  So whether an insertion
matters can be told from the inserted flows alone.
-/

import FlowDesk.Proofs.Desk.Entry
import FlowDesk.Proofs.Text.Case
import Mathlib.Order.Fin.Basic

namespace FlowDesk.Flow

variable {message variant : String} {flows others wider : List Flow}

/-! ## The place of the selected flow -/

/-- The flow at a position is the one that is selected for a message: it is what the
selection comes to, and no flow before it is selected by itself. -/
structure SelectedAt (message : String) (flows : List Flow) (position : Nat) : Prop where
  selected : ∃ flow, flows[position]? = some flow ∧ select? message flows = some flow
  earlier : ∀ other < position, ∀ flow, flows[other]? = some flow → select? message [flow] = none

/-- The flow at a position is heard in a message. -/
def HeardAt (message : String) (flows : List Flow) (position : Nat) : Prop :=
  ∃ flow, flows[position]? = some flow ∧ flow.HeardIn message

/-- A flow is selected by itself when it is heard. -/
theorem select?_singleton_eq_none_iff {flow : Flow} :
    select? message [flow] = none ↔ ¬ flow.HeardIn message := by
  simp [Catalogue.select?_eq_none_iff]

/-- A flow that is selected by itself is heard. -/
theorem select?_singleton_eq_some_iff {flow : Flow} :
    select? message [flow] = some flow ↔ flow.HeardIn message := by
  rw [← not_iff_not, ← select?_singleton_eq_none_iff, select?, List.find?_singleton]
  split <;> simp

/-- The flow at a position is selected exactly when it is the first one that is heard. -/
theorem selectedAt_iff {position : Nat} :
    SelectedAt message flows position ↔
      HeardAt message flows position ∧ ∀ other < position, ¬ HeardAt message flows other := by
  constructor
  · rintro ⟨⟨flow, hflow, hselect⟩, hearlier⟩
    refine ⟨⟨flow, hflow, (Catalogue.select?_eq_some_iff.1 hselect).1⟩, ?_⟩
    rintro other hother ⟨before, hbefore, hheard⟩
    exact select?_singleton_eq_none_iff.1 (hearlier other hother before hbefore) hheard
  · rintro ⟨⟨flow, hflow, hheard⟩, hearlier⟩
    refine ⟨⟨flow, hflow, ?_⟩, fun other hother before hbefore =>
      select?_singleton_eq_none_iff.2 fun hheard => hearlier other hother ⟨before, hbefore, hheard⟩⟩
    obtain ⟨hposition, rfl⟩ := List.getElem?_eq_some_iff.1 hflow
    refine Catalogue.select?_eq_some_iff.2 ⟨hheard, flows.take position, flows.drop (position + 1),
      by simp, fun before hbefore hheard => ?_⟩
    obtain ⟨other, hother, rfl⟩ := List.mem_take_iff_getElem.1 hbefore
    exact hearlier other (by omega) ⟨_, List.getElem?_eq_getElem _, hheard⟩

/-- No two positions are selected. -/
theorem SelectedAt.unique {first second : Nat} (hfirst : SelectedAt message flows first)
    (hsecond : SelectedAt message flows second) : first = second := by
  obtain ⟨hheard, hearlier⟩ := selectedAt_iff.1 hfirst
  obtain ⟨hheard', hearlier'⟩ := selectedAt_iff.1 hsecond
  exact Nat.le_antisymm (Nat.le_of_not_lt fun hlt => hearlier second hlt hheard')
    (Nat.le_of_not_lt fun hlt => hearlier' first hlt hheard)

/-- A flow is selected exactly when it stands at the one position that is. -/
theorem select?_eq_some_iff_existsUnique {flow : Flow} :
    select? message flows = some flow ↔
      ∃! position, SelectedAt message flows position ∧ flows[position]? = some flow := by
  constructor
  · intro hselect
    obtain ⟨hheard, before, later, hflows, hbefore⟩ := Catalogue.select?_eq_some_iff.1 hselect
    have hplace : flows[before.length]? = some flow := by simp [hflows]
    have hselected : SelectedAt message flows before.length := by
      refine selectedAt_iff.2 ⟨⟨flow, hplace, hheard⟩, ?_⟩
      rintro other hother ⟨earlier, hearlier, hheard⟩
      rw [hflows, List.getElem?_append_left hother] at hearlier
      exact hbefore earlier (List.mem_of_getElem? hearlier) hheard
    exact ⟨before.length, ⟨hselected, hplace⟩, fun other hother => hother.1.unique hselected⟩
  · rintro ⟨position, ⟨⟨⟨found, hfound, hselect⟩, -⟩, hflow⟩, -⟩
    cases hfound.symm.trans hflow
    exact hselect

/-! ## The case of letters -/

/-- One flow is another with its keywords in another case. -/
structure Respelled (flow other : Flow) : Prop where
  kind : flow.trigger.kind = other.trigger.kind
  keywords : List.Forall₂ Text.SameButCase flow.trigger.keywords other.trigger.keywords

/-- A flow is heard in a message whatever the case of both. -/
theorem heardIn_iff_of_respelled {flow other : Flow} (hrespelled : Respelled flow other)
    (hmessage : Text.SameButCase message variant) :
    flow.HeardIn message ↔ other.HeardIn variant := by
  rw [HeardIn, HeardIn, hrespelled.kind, Text.lower_eq_of_sameButCase hmessage]
  refine and_congr_right fun _ => ?_
  have hkeywords := hrespelled.keywords
  generalize flow.trigger.keywords = keywords, other.trigger.keywords = respelled at hkeywords ⊢
  induction hkeywords with
  | nil => simp
  | cons hkeyword _ ih =>
    simp only [List.exists_mem_cons_iff, ih, Text.lower_eq_of_sameButCase hkeyword, ne_eq,
      Text.eq_empty_iff_of_sameButCase hkeyword]

/-- The positions at which flows are heard do not depend on case. -/
theorem heardAt_iff_of_respelled (hflows : List.Forall₂ Respelled flows others)
    (hmessage : Text.SameButCase message variant) (position : Nat) :
    HeardAt message flows position ↔ HeardAt variant others position := by
  induction hflows generalizing position with
  | nil => simp [HeardAt]
  | cons hflow _ ih =>
    cases position with
    | zero => simp [HeardAt, heardIn_iff_of_respelled hflow hmessage]
    | succ position =>
      simp only [HeardAt, List.getElem?_cons_succ]
      exact ih position

/-! ## Inserted flows -/

/-- At a place of the list, a flow is heard when it is the one that stands there. -/
theorem heardAt_iff {place : Fin flows.length} :
    HeardAt message flows place ↔ (flows.get place).HeardIn message := by
  simp [HeardAt]

section

variable {place : Fin flows.length ↪o Fin wider.length}
  (hplace : ∀ i, wider.get (place i) = flows.get i)

include hplace

/-- A flow that was selected before others were inserted is selected exactly when none of
these is heard before it. -/
theorem selectedAt_place_iff {i : Fin flows.length} (hselected : SelectedAt message flows i) :
    SelectedAt message wider (place i) ↔
      ∀ j ∉ Set.range place, j < place i → ¬ (wider.get j).HeardIn message := by
  obtain ⟨hheard, hearlier⟩ := selectedAt_iff.1 hselected
  constructor
  · intro hplaced j _ hj hother
    exact (selectedAt_iff.1 hplaced).2 j hj (heardAt_iff.2 hother)
  · intro hinserted
    refine selectedAt_iff.2 ⟨?_, fun other hother hbefore => ?_⟩
    · rw [heardAt_iff, hplace]
      exact heardAt_iff.1 hheard
    · obtain ⟨j, rfl⟩ : ∃ j : Fin wider.length, j = other :=
        ⟨⟨other, hother.trans (place i).isLt⟩, rfl⟩
      rw [heardAt_iff] at hbefore
      by_cases hrange : j ∈ Set.range place
      · obtain ⟨before, rfl⟩ := hrange
        have hless : before < i := place.lt_iff_lt.1 (Fin.lt_def.2 hother)
        rw [hplace] at hbefore
        exact hearlier before (Fin.lt_def.1 hless) (heardAt_iff.2 hbefore)
      · exact hinserted j hrange hother hbefore

/-- If no flow was selected before, only an inserted one is. -/
theorem not_mem_range_of_selectedAt (hnone : select? message flows = none)
    {j : Fin wider.length} (hselected : SelectedAt message wider j) : j ∉ Set.range place := by
  rintro ⟨i, rfl⟩
  have hheard := heardAt_iff.1 (selectedAt_iff.1 hselected).1
  rw [hplace] at hheard
  exact Catalogue.select?_eq_none_iff.1 hnone _ (List.get_mem flows i) hheard

end

/-- **The selection of a flow does not depend on case, and an insertion matters only where
an inserted flow is heard.**  The selected flow is the one at the position that is selected.
Which position this is stays the same when letters of ASCII in the message and in the
keywords are written in another case.  When flows are inserted into a list, the flow that
was selected loses the message exactly if an inserted flow that stands before it is selected
by itself; and if none was selected, then only an inserted one can be. -/
theorem selection_stable (message : String) (flows : List Flow) :
    (∀ flow, select? message flows = some flow ↔
      ∃! position, SelectedAt message flows position ∧ flows[position]? = some flow) ∧
    (∀ variant others, Text.SameButCase message variant → List.Forall₂ Respelled flows others →
      ∀ position, SelectedAt message flows position ↔ SelectedAt variant others position) ∧
    ∀ (wider : List Flow) (place : Fin flows.length ↪o Fin wider.length),
      (∀ i, wider.get (place i) = flows.get i) →
        (∀ i : Fin flows.length, SelectedAt message flows i →
          (¬ SelectedAt message wider (place i) ↔
            ∃ j ∉ Set.range place, j < place i ∧
              select? message [wider.get j] = some (wider.get j))) ∧
        (select? message flows = none → ∀ j : Fin wider.length, SelectedAt message wider j →
          j ∉ Set.range place ∧ select? message [wider.get j] = some (wider.get j)) := by
  refine ⟨fun flow => select?_eq_some_iff_existsUnique,
    fun variant others hmessage hflows position => ?_,
    fun wider place hplace => ⟨fun i hselected => ?_, fun hnone j hselected => ?_⟩⟩
  · simp only [selectedAt_iff, heardAt_iff_of_respelled hflows hmessage]
  · rw [selectedAt_place_iff hplace hselected]
    simp [select?_singleton_eq_some_iff]
  · exact ⟨not_mem_range_of_selectedAt hplace hnone hselected,
      select?_singleton_eq_some_iff.2 (heardAt_iff.1 (selectedAt_iff.1 hselected).1)⟩

/-- A keyword that ends in a sigma is heard in either case of the letters before it, and an
empty one is not heard at all.  A flow without a keyword trigger does not matter where it is
inserted, but one with another word of the message does. -/
theorem selection_stable_before_sigma :
    let flow (kind : TriggerKind) (keyword : String) : Flow :=
      ⟨"way", "", "", ⟨kind, [keyword]⟩, "say", []⟩
    let flows := [flow .keyword "", flow .keyword "an ΟΔΟΣ"]
    SelectedAt "Is THIS an ΟΔΟΣ" flows 1 ∧
      SelectedAt "is this AN ΟΔΟΣ" [flow .keyword "", flow .keyword "An ΟΔΟΣ"] 1 ∧
      SelectedAt "Is THIS an ΟΔΟΣ" (flow .intent "this" :: flows) 2 ∧
      ¬ SelectedAt "Is THIS an ΟΔΟΣ" (flow .keyword "this" :: flows) 2 := by
  intro flow flows
  have hheard : (flow .keyword "an ΟΔΟΣ").HeardIn "Is THIS an ΟΔΟΣ" :=
    fires_iff.1 (by decide +kernel)
  have hempty : ¬ (flow .keyword "").HeardIn "Is THIS an ΟΔΟΣ" :=
    fires_iff.not.1 (by decide +kernel)
  have hinserted : (flow .keyword "this").HeardIn "Is THIS an ΟΔΟΣ" :=
    fires_iff.1 (by decide +kernel)
  have hselected : SelectedAt "Is THIS an ΟΔΟΣ" flows 1 := by
    refine selectedAt_iff.2 ⟨⟨_, rfl, hheard⟩, fun other hother => ?_⟩
    obtain rfl : other = 0 := by omega
    rintro ⟨_, hfirst, hheard⟩
    cases hfirst
    exact hempty hheard
  obtain ⟨-, hcase, hinsert⟩ := selection_stable "Is THIS an ΟΔΟΣ" flows
  have hlost := fun kind => (hinsert (flow kind "this" :: flows) (Fin.succOrderEmb 2)
    (fun _ => rfl)).1 1 hselected
  refine ⟨hselected, (hcase _ _ (by decide +kernel) ?_ 1).1 hselected, ?_, ?_⟩
  · exact .cons ⟨rfl, .cons (by decide) .nil⟩ (.cons ⟨rfl, .cons (by decide +kernel) .nil⟩ .nil)
  · by_contra hnot
    obtain ⟨j, hj, -, hselect⟩ := (hlost .intent).1 hnot
    cases j using Fin.cases with
    | zero => cases (select?_singleton_eq_some_iff.1 hselect).1
    | succ i => exact hj ⟨i, rfl⟩
  · refine (hlost .keyword).2 ⟨0, ?_, Fin.succ_pos _, select?_singleton_eq_some_iff.2 hinserted⟩
    rintro ⟨i, hi⟩
    exact Fin.succ_ne_zero i hi

end FlowDesk.Flow
