/-
# Flows that no message is for

A flow with a keyword trigger answers no message at all if it has no keyword that is not
empty, and it answers some message otherwise: the keyword itself is one, whatever its
letters are lowered to (`Flow.heardIn_keyword`).

The findings of a flow look at its trigger as well, but only at whether it has any keyword.
So whatever they say of a trigger is right, but they miss one kind of flow that no message
is for, and only that one: it has keywords, and all of them are empty (`unheard_found`).
-/

import FlowDesk.Proofs.Desk.Selection

namespace FlowDesk

/-- Nothing that is found in a step is about the trigger. -/
theorem Step.noKeywords_not_mem (flow : Flow) (known : Option (List String)) (key : String)
    (step : Step) :
    .noKeywords ∉ step.keyFindings key ++ successorFindings flow key ++
      step.operationFindings known key := by
  simp only [List.mem_append, not_or]
  refine ⟨⟨?_, ?_⟩, ?_⟩
  · rw [keyFindings]
    split <;> simp
  · simp [successorFindings]
  · unfold operationFindings
    split
    · split <;> simp
    · simp

namespace Flow

variable {flow : Flow}

/-- What is found in a trigger is that it has no keywords although it should. -/
theorem noKeywords_mem_findings_iff {known : Option (List String)} :
    .noKeywords ∈ flow.findings known ↔
      flow.trigger.kind = .keyword ∧ flow.trigger.keywords = [] := by
  have hstart : .noKeywords ∉ (if flow.steps.has flow.initialStep then []
      else [Finding.initialStepMissing flow.initialStep]) := by
    split <;> simp
  have hsteps : .noKeywords ∉ flow.steps.flatMap (fun entry =>
      entry.2.keyFindings entry.1 ++ Step.successorFindings flow entry.1 ++
        entry.2.operationFindings known entry.1) := by
    intro hmem
    obtain ⟨entry, -, hentry⟩ := List.mem_flatMap.1 hmem
    exact Step.noKeywords_not_mem flow known entry.1 entry.2 hentry
  rw [findings, List.mem_append, List.mem_append]
  simp only [hstart, hsteps, false_or]
  split <;> simp_all

/-- A flow with a keyword trigger is heard in each of its keywords that is not empty. -/
theorem heardIn_keyword (hkind : flow.trigger.kind = .keyword) {keyword : String}
    (hmem : keyword ∈ flow.trigger.keywords) (hsome : keyword ≠ "") : flow.HeardIn keyword :=
  ⟨hkind, keyword, hmem, hsome, List.infix_rfl⟩

/-- A flow with a keyword trigger is heard nowhere exactly if all its keywords are empty. -/
theorem forall_not_heardIn_iff (hkind : flow.trigger.kind = .keyword) :
    (∀ message, ¬ flow.HeardIn message) ↔ ∀ keyword ∈ flow.trigger.keywords, keyword = "" := by
  constructor
  · intro hnowhere keyword hmem
    by_contra hsome
    exact hnowhere keyword (heardIn_keyword hkind hmem hsome)
  · rintro hempty message ⟨-, keyword, hmem, hsome, -⟩
    exact hsome (hempty keyword hmem)

/-- **A flow that no message is for is found, unless it has empty keywords and no others.**
Let a flow have a keyword trigger.  The findings report the trigger exactly if it has no
keywords.  No message selects the flow exactly if all its keywords are empty, and each
other keyword is a message that does.  So the two say the same of the flow exactly if it
has no keywords or one that is not empty. -/
theorem unheard_found (flow : Flow) (hkind : flow.trigger.kind = .keyword)
    (known : Option (List String)) :
    let Found := .noKeywords ∈ findings flow known
    let Unheard := ∀ message, select? message [flow] = none
    (Found ↔ flow.trigger.keywords = []) ∧
    (Unheard ↔ ∀ keyword ∈ flow.trigger.keywords, keyword = "") ∧
    (∀ keyword ∈ flow.trigger.keywords, keyword ≠ "" → select? keyword [flow] = some flow) ∧
    ((Found ↔ Unheard) ↔
      flow.trigger.keywords = [] ∨ ∃ keyword ∈ flow.trigger.keywords, keyword ≠ "") := by
  intro Found Unheard
  have hfound : Found ↔ flow.trigger.keywords = [] :=
    noKeywords_mem_findings_iff.trans (and_iff_right hkind)
  have hunheard : Unheard ↔ ∀ keyword ∈ flow.trigger.keywords, keyword = "" :=
    (forall_congr' fun _ => select?_singleton_eq_none_iff).trans (forall_not_heardIn_iff hkind)
  refine ⟨hfound, hunheard, fun keyword hmem hsome =>
    select?_singleton_eq_some_iff.2 (heardIn_keyword hkind hmem hsome), ?_⟩
  rw [hfound, hunheard]
  constructor
  · intro hagree
    by_cases hempty : ∀ keyword ∈ flow.trigger.keywords, keyword = ""
    · exact .inl (hagree.2 hempty)
    · exact .inr (by simpa using hempty)
  · rintro (hnone | ⟨keyword, hmem, hsome⟩)
    · simp [hnone]
    · exact iff_of_false (List.ne_nil_of_mem hmem) fun hempty => hsome (hempty keyword hmem)

/-- Of three flows, one without keywords is found.  One that also has an empty keyword
answers the other one, which ends in a sigma.  The one whose keywords are all empty answers
nothing, and nothing is found. -/
theorem unheard_found_unless_empty :
    let flow (keywords : List String) : Flow := ⟨"way", "", "", ⟨.keyword, keywords⟩, "say", []⟩
    let Found (keywords : List String) := .noKeywords ∈ findings (flow keywords) none
    Found [] ∧
      ¬ Found ["", "ΟΔΟΣ"] ∧ select? "ΟΔΟΣ" [flow ["", "ΟΔΟΣ"]] = some (flow ["", "ΟΔΟΣ"]) ∧
      ¬ Found ["", ""] ∧ ∀ message, select? message [flow ["", ""]] = none := by
  intro flow Found
  have hall := fun keywords => unheard_found (flow keywords) rfl none
  obtain ⟨hnone, -⟩ := hall []
  obtain ⟨hsome, -, hselects, -⟩ := hall ["", "ΟΔΟΣ"]
  obtain ⟨hempty, hunheard, -⟩ := hall ["", ""]
  refine ⟨hnone.2 rfl, hsome.not.2 (by simp [flow]), hselects "ΟΔΟΣ" (by simp [flow]) (by decide),
    hempty.not.2 (by simp [flow]), hunheard.2 (by simp [flow])⟩

end Flow

end FlowDesk
