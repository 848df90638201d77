/-
# Sorting is stable

For a comparison that follows a key, sorting by runs puts a list in the order
of the keys and keeps the old order of the items with one key (`sort_stable`).
Since that leaves no choice, what is picked from a sorted list does not depend
on the items that are not picked (`filter_sort_eq`).
-/

import FlowDesk.Proofs.Book.Merging

namespace FlowDesk.Sorting

variable {α : Type} {before : α → α → Bool} {key : α → Int} {P : α → Prop}

/-! ## Waiting runs -/

/-- Merging the newest run with those before it keeps all runs ordered, and
the old order. -/
theorem mergeDeeper_ordered (hranks : Ranks before key P) (depth : Nat) {top : Pending α}
    {rest : List (Pending α)} (patience : Nat)
    (hruns : ∀ pending ∈ top :: rest, Ordered key P pending.run) :
    let reached := mergeDeeper before depth top rest patience
    (∀ pending ∈ reached.1 :: reached.2.1, Ordered key P pending.run) ∧
      Stably key (waitingItems (reached.1 :: reached.2.1)) (waitingItems (top :: rest)) := by
  induction rest generalizing top patience with
  | nil => exact ⟨hruns, .refl _⟩
  | cons below rest ih =>
    unfold mergeDeeper
    split
    · obtain ⟨hmerged, hstably⟩ := mergeRuns_ordered hranks patience
        (hruns below (by simp)) (hruns top (by simp))
      have hruns' : ∀ pending ∈ ⟨below.start, (mergeRuns before patience below.run top.run).1,
          below.depth⟩ :: rest, Ordered key P pending.run := by
        intro pending hmem
        rcases List.mem_cons.1 hmem with rfl | hmem
        · exact hmerged
        · exact hruns pending (by simp [hmem])
      obtain ⟨hreached, hkept⟩ := ih (mergeRuns before patience below.run top.run).2 hruns'
      refine ⟨hreached, hkept.trans ?_⟩
      simp only [waitingItems_cons, List.append_assoc]
      exact (Stably.refl _).append hstably
    · exact ⟨hruns, .refl _⟩

/-- Taking another run keeps all runs ordered, and the old order. -/
theorem push_ordered (hranks : Ranks before key P) (total : Nat)
    {state : List (Pending α) × Nat} {run : List α}
    (hstate : ∀ pending ∈ state.1, Ordered key P pending.run) (hrun : Ordered key P run) :
    (∀ pending ∈ (push before total state run).1, Ordered key P pending.run) ∧
      Stably key (waitingItems (push before total state run).1) (waitingItems state.1 ++ run) := by
  obtain ⟨waiting, patience⟩ := state
  cases waiting with
  | nil => exact ⟨by simpa [push] using hrun, by simpa [push, waitingItems] using Stably.refl run⟩
  | cons top rest =>
    simp only [push]
    generalize cutDepth total total _ _ = depth
    obtain ⟨hreached, hstably⟩ := mergeDeeper_ordered hranks depth patience hstate
    refine ⟨fun pending hmem => ?_, ?_⟩
    · rcases List.mem_cons.1 hmem with rfl | hmem
      · exact hrun
      · rcases List.mem_cons.1 hmem with rfl | hmem
        · exact hreached (mergeDeeper before depth top rest patience).1 List.mem_cons_self
        · exact hreached pending (List.mem_cons_of_mem _ hmem)
    · rw [waitingItems_cons]
      exact hstably.append (.refl run)

/-- Taking all runs keeps them ordered, and the old order. -/
theorem foldl_push_ordered (hranks : Ranks before key P) (total : Nat) {cut : List (List α)}
    (state : List (Pending α) × Nat) (hstate : ∀ pending ∈ state.1, Ordered key P pending.run)
    (hcut : ∀ run ∈ cut, Ordered key P run) :
    (∀ pending ∈ (cut.foldl (push before total) state).1, Ordered key P pending.run) ∧
      Stably key (waitingItems (cut.foldl (push before total) state).1)
        (waitingItems state.1 ++ cut.flatten) := by
  induction cut generalizing state with
  | nil => exact ⟨hstate, by simpa using Stably.refl _⟩
  | cons run cut ih =>
    obtain ⟨hpushed, hkept⟩ := push_ordered hranks total hstate (hcut run List.mem_cons_self)
    obtain ⟨hall, hstably⟩ := ih _ hpushed fun other hother => hcut other (by simp [hother])
    refine ⟨hall, hstably.trans ?_⟩
    simpa using hkept.append (.refl cut.flatten)

/-- Merging all runs that wait, the newest of which comes first, gives the
items in order, and keeps the old order. -/
theorem mergeAll_ordered (hranks : Ranks before key P) (patience : Nat) {waiting : List (List α)}
    (hwaiting : ∀ run ∈ waiting, Ordered key P run) :
    Ordered key P (mergeAll before patience waiting) ∧
      Stably key (mergeAll before patience waiting) waiting.reverse.flatten := by
  fun_induction mergeAll before patience waiting with
  | case1 => exact ⟨⟨by simp, .nil⟩, .refl _⟩
  | case2 patience run => exact ⟨hwaiting run (by simp), by simpa using Stably.refl run⟩
  | case3 patience top below =>
    simpa using
      mergeRuns_ordered hranks patience (hwaiting below (by simp)) (hwaiting top (by simp))
  | case4 patience top below third rest _ merged next hmerged ih =>
    obtain ⟨hordered, hstably⟩ := mergeRuns_ordered hranks patience (hwaiting third (by simp))
      (hwaiting below (by simp))
    rw [hmerged] at hordered hstably
    obtain ⟨hall, hkept⟩ := ih (by
      intro run hmem
      rcases List.mem_cons.1 hmem with rfl | hmem
      · exact hwaiting run (by simp)
      · rcases List.mem_cons.1 hmem with rfl | hmem
        · exact hordered
        · exact hwaiting run (by simp [hmem]))
    refine ⟨hall, hkept.trans ?_⟩
    simp only [List.reverse_cons, List.flatten_append, List.flatten_singleton, List.append_assoc]
    apply (Stably.refl _).append
    simpa using hstably.append (.refl top)
  | case5 patience top below third rest _ merged next hmerged ih =>
    obtain ⟨hordered, hstably⟩ := mergeRuns_ordered hranks patience (hwaiting below (by simp))
      (hwaiting top (by simp))
    rw [hmerged] at hordered hstably
    obtain ⟨hall, hkept⟩ := ih (by
      intro run hmem
      rcases List.mem_cons.1 hmem with rfl | hmem
      · exact hordered
      · exact hwaiting run (by simp [List.mem_cons.1 hmem]))
    refine ⟨hall, hkept.trans ?_⟩
    simp only [List.reverse_cons, List.flatten_append, List.flatten_singleton, List.append_assoc]
    exact (Stably.refl _).append ((Stably.refl third).append hstably)

/-! ## The whole sort -/

/-- Sorting puts the items in the order of their keys and keeps the old order
of those with one key. -/
theorem sort_stable (hranks : Ranks before key P) {items : List α} (hitems : ∀ x ∈ items, P x) :
    Ordered key P (sort before items) ∧ Stably key (sort before items) items := by
  have hruns := ordered_of_mem_runs hranks (leastRun items.length) (Nat.le_refl _) hitems
  obtain ⟨hpushed, hkept⟩ := foldl_push_ordered hranks items.length
    ([], Rule.longStretch) (by simp) hruns
  obtain ⟨hordered, hstably⟩ := mergeAll_ordered hranks
    ((runs before (leastRun items.length) items.length items).foldl (push before items.length)
      ([], Rule.longStretch)).2
    (List.forall_mem_map.2 hpushed)
  exact ⟨hordered, (hstably.trans hkept).trans (by
    simpa [waitingItems] using stably_flatten_runs hranks _ items.length hitems)⟩

/-- What is picked from a sorted list depends only on what is picked from the
list. -/
theorem filter_sort_eq (hranks : Ranks before key P) {xs ys : List α} (hxs : ∀ x ∈ xs, P x)
    (hys : ∀ y ∈ ys, P y) {p : α → Bool} (hpicked : xs.filter p = ys.filter p) :
    (sort before xs).filter p = (sort before ys).filter p := by
  obtain ⟨horderedX, hstablyX⟩ := sort_stable hranks hxs
  obtain ⟨horderedY, hstablyY⟩ := sort_stable hranks hys
  refine eq_of_ordered (horderedX.sublist List.filter_sublist)
    (horderedY.sublist List.filter_sublist) ?_
  apply (hstablyX.filter p).trans
  rw [hpicked]
  exact (hstablyY.filter p).symm

end FlowDesk.Sorting
