/-
# Order and stability

A comparison that follows a key of the items has a canonical result of sorting:
the items in the order of their keys, those of one key in their old order
(`eq_of_ordered`).  What comes up first in it is the first of the least items
of the list (`Ordered.first`).  This module says what that means, and proves it
of the library's sort (`mergeSort_stable`) and of the runs into which a list is
cut, which are ordered and keep the old order of items with one key
(`ordered_of_mem_runs`, `stably_flatten_runs`).
-/

import FlowDesk.Book.Sorting
import Mathlib.Data.List.Basic

namespace FlowDesk.Sorting

variable {α : Type} {before : α → α → Bool} {key : α → Int} {P : α → Prop}

/-! ## Ordered lists -/

/-- A comparison puts the items with a property in the order of a key. -/
def Ranks (before : α → α → Bool) (key : α → Int) (P : α → Prop) : Prop :=
  ∀ x y, P x → P y → (before x y = true ↔ key x < key y)

/-- What does not come before an item has no smaller key. -/
theorem Ranks.eq_false_iff (hranks : Ranks before key P) {x y : α} (hx : P x) (hy : P y) :
    before x y = false ↔ key y ≤ key x := by
  rw [← Bool.not_eq_true, hranks x y hx hy]
  omega

/-- Items with a property, in the order of a key. -/
structure Ordered (key : α → Int) (P : α → Prop) (items : List α) : Prop where
  all : ∀ x ∈ items, P x
  rising : items.Pairwise fun x y => key x ≤ key y

/-- One list after another is ordered when both are and no item of the second
has a smaller key than one of the first. -/
theorem ordered_append {xs ys : List α} :
    Ordered key P (xs ++ ys) ↔
      Ordered key P xs ∧ Ordered key P ys ∧ ∀ x ∈ xs, ∀ y ∈ ys, key x ≤ key y := by
  refine ⟨fun h => ?_, fun ⟨hxs, hys, hcross⟩ => ⟨?_, ?_⟩⟩
  · obtain ⟨hrisingXs, hrisingYs, hcross⟩ := List.pairwise_append.1 h.rising
    exact ⟨⟨fun x hx => h.all x (List.mem_append_left _ hx), hrisingXs⟩,
      ⟨fun y hy => h.all y (List.mem_append_right _ hy), hrisingYs⟩, hcross⟩
  · intro x hx
    rcases List.mem_append.1 hx with hx | hx
    · exact hxs.all x hx
    · exact hys.all x hx
  · exact List.pairwise_append.2 ⟨hxs.rising, hys.rising, hcross⟩

/-- An ordered list starts with its least key. -/
theorem ordered_cons {x : α} {xs : List α} :
    Ordered key P (x :: xs) ↔ P x ∧ Ordered key P xs ∧ ∀ y ∈ xs, key x ≤ key y := by
  refine ⟨fun h => ?_, fun ⟨hx, hxs, hleast⟩ => ⟨?_, ?_⟩⟩
  · obtain ⟨hleast, hrising⟩ := List.pairwise_cons.1 h.rising
    exact ⟨h.all x List.mem_cons_self, ⟨fun y hy => h.all y (List.mem_cons_of_mem _ hy), hrising⟩,
      hleast⟩
  · intro y hy
    rcases List.mem_cons.1 hy with rfl | hy
    · exact hx
    · exact hxs.all y hy
  · exact List.pairwise_cons.2 ⟨hleast, hxs.rising⟩

/-- Some of the items of an ordered list, in their order, are ordered. -/
theorem Ordered.sublist {xs ys : List α} (hys : Ordered key P ys) (hsub : xs.Sublist ys) :
    Ordered key P xs :=
  ⟨fun x hx => hys.all x (hsub.subset hx), hys.rising.sublist hsub⟩

/-! ## Stability -/

/-- The items with a key, in their order. -/
def level (key : α → Int) (k : Int) (items : List α) : List α :=
  items.filter fun x => decide (key x = k)

@[simp] theorem level_nil (k : Int) : level key k [] = [] := rfl

@[simp] theorem level_append (k : Int) (xs ys : List α) :
    level key k (xs ++ ys) = level key k xs ++ level key k ys := by
  simp [level]

theorem mem_level {k : Int} {xs : List α} {x : α} : x ∈ level key k xs ↔ x ∈ xs ∧ key x = k := by
  simp [level]

theorem level_cons (k : Int) (x : α) (xs : List α) :
    level key k (x :: xs) = if key x = k then x :: level key k xs else level key k xs := by
  simp [level, List.filter_cons]

/-- A list without items of a key has an empty level. -/
theorem level_eq_nil {k : Int} {xs : List α} (hnone : ∀ x ∈ xs, key x ≠ k) :
    level key k xs = [] := by
  rw [level, List.filter_eq_nil_iff]
  intro x hx
  simpa using hnone x hx

/-- Two lists hold the same items, those of one key in the same order. -/
def Stably (key : α → Int) (xs ys : List α) : Prop :=
  ∀ k, level key k xs = level key k ys

namespace Stably

variable {xs ys zs us : List α}

theorem refl (xs : List α) : Stably key xs xs := fun _ => rfl

theorem symm (h : Stably key xs ys) : Stably key ys xs := fun k => (h k).symm

theorem trans (h : Stably key xs ys) (h' : Stably key ys zs) : Stably key xs zs :=
  fun k => (h k).trans (h' k)

theorem append (h : Stably key xs ys) (h' : Stably key zs us) :
    Stably key (xs ++ zs) (ys ++ us) := by
  intro k
  rw [level_append, level_append, h k, h' k]

/-- Both lists hold the same items. -/
theorem mem_iff (h : Stably key xs ys) (x : α) : x ∈ xs ↔ x ∈ ys := by
  have hlevel := congrArg (x ∈ ·) (h (key x))
  simpa [mem_level] using hlevel

/-- Picking some of the items keeps the old order. -/
theorem filter (h : Stably key xs ys) (p : α → Bool) :
    Stably key (xs.filter p) (ys.filter p) := by
  intro k
  have hcomm : ∀ items : List α, level key k (items.filter p) = (level key k items).filter p := by
    intro items
    simp only [level, List.filter_filter]
    congr 1
    funext x
    rw [Bool.and_comm]
  rw [hcomm, hcomm, h k]

end Stably

/-- A list of items with different keys may be turned around. -/
theorem stably_reverse {xs : List α} (hdifferent : xs.Pairwise fun x y => key x ≠ key y) :
    Stably key xs.reverse xs := by
  intro k
  induction xs with
  | nil => rfl
  | cons x xs ih =>
    obtain ⟨hhead, htail⟩ := List.pairwise_cons.1 hdifferent
    rw [List.reverse_cons, level_append, ih htail, level_cons]
    by_cases hx : key x = k
    · have hnone : level key k xs = [] :=
        level_eq_nil fun y hy hk => hhead y hy (hx.trans hk.symm)
      simp [hnone, level_cons, hx]
    · simp [level_cons, hx]

/-- Between ordered lists stability leaves no choice. -/
theorem eq_of_ordered {xs ys : List α} (hxs : Ordered key P xs) (hys : Ordered key P ys)
    (hstably : Stably key xs ys) : xs = ys := by
  induction xs generalizing ys with
  | nil =>
    cases ys with
    | nil => rfl
    | cons y ys => exact absurd ((hstably.mem_iff y).2 List.mem_cons_self) (by simp)
  | cons x xs ih =>
    cases ys with
    | nil => exact absurd ((hstably.mem_iff x).1 List.mem_cons_self) (by simp)
    | cons y ys =>
      obtain ⟨-, hxs', hleastX⟩ := ordered_cons.1 hxs
      obtain ⟨-, hys', hleastY⟩ := ordered_cons.1 hys
      have hle : ∀ {a b : α} {bs : List α}, a ∈ b :: bs → (∀ c ∈ bs, key b ≤ key c) →
          key b ≤ key a := by
        intro a b bs hmem hleast
        rcases List.mem_cons.1 hmem with rfl | hmem
        · exact Int.le_refl _
        · exact hleast a hmem
      have hyx : key y ≤ key x := hle ((hstably.mem_iff x).1 List.mem_cons_self) hleastY
      have hxy : key x ≤ key y := hle ((hstably.mem_iff y).2 List.mem_cons_self) hleastX
      have hkey : key y = key x := Int.le_antisymm hyx hxy
      have hhead := hstably (key x)
      simp only [level_cons, if_pos hkey, if_true, List.cons.injEq] at hhead
      obtain ⟨rfl, -⟩ := hhead
      refine congrArg (x :: ·) (ih hxs' hys' fun k => ?_)
      have hk := hstably k
      rw [level_cons, level_cons] at hk
      split at hk
      · exact List.cons.inj hk |>.2
      · exact hk

/-- The first item with a property that comes up in an ordered list has the least key of
all that have it, and was the first of those with its key. -/
theorem Ordered.first {xs ys front rest : List α} {x : α} (hys : Ordered key P ys)
    (hstably : Stably key ys xs) (hsplit : ys = front ++ x :: rest) {Q : α → Prop} (hx : Q x)
    (hfront : ∀ y ∈ front, ¬ Q y) :
    ∃ before after, xs = before ++ x :: after ∧ (∀ y ∈ before, Q y → key x < key y) ∧
      ∀ y ∈ after, Q y → key x ≤ key y := by
  classical
  rw [hsplit] at hys hstably
  obtain ⟨-, hrest, -⟩ := ordered_append.1 hys
  obtain ⟨-, -, hleast⟩ := ordered_cons.1 hrest
  have hxs : ∀ y ∈ xs, Q y → key x ≤ key y := by
    intro y hmem hy
    rcases List.mem_append.1 ((hstably.mem_iff y).2 hmem) with hmem | hmem
    · exact absurd hy (hfront y hmem)
    · rcases List.mem_cons.1 hmem with rfl | hmem
      · exact Int.le_refl _
      · exact hleast y hmem
  have hlevel := hstably.filter (fun y => decide (Q y)) (key x)
  have hnone : front.filter (fun y => decide (Q y)) = [] := by
    rw [List.filter_eq_nil_iff]
    exact fun y hmem => by simpa using hfront y hmem
  rw [List.filter_append, hnone, List.nil_append, List.filter_cons_of_pos (by simpa using hx),
    level_cons, if_pos rfl, eq_comm, level, List.filter_filter, List.filter_eq_cons_iff] at hlevel
  obtain ⟨before, after, hxs', hbefore, -, -⟩ := hlevel
  refine ⟨before, after, hxs', fun y hmem hy => ?_, fun y hmem hy => hxs y ?_ hy⟩
  · have hle : key x ≤ key y := hxs y (by rw [hxs']; exact List.mem_append_left _ hmem) hy
    have hother : key y ≠ key x := by simpa [hy] using hbefore y hmem
    omega
  · rw [hxs']
    exact List.mem_append_right _ (List.mem_cons_of_mem _ hmem)

/-- Merging halves sorts by a key and keeps the old order of items with one key. -/
theorem mergeSort_stable {le : α → α → Bool} (hle : ∀ x y, le x y = true ↔ key x ≤ key y)
    {xs : List α} (hxs : ∀ x ∈ xs, P x) :
    Ordered key P (xs.mergeSort le) ∧ Stably key (xs.mergeSort le) xs := by
  have htrans : ∀ x y z, le x y → le y z → le x z := by
    intro x y z
    simp only [hle]
    omega
  have htotal : ∀ x y, (le x y || le y x) = true := by
    intro x y
    simp only [Bool.or_eq_true, hle]
    omega
  have hperm := List.mergeSort_perm xs le
  refine ⟨⟨fun x hmem => hxs x (hperm.mem_iff.1 hmem), ?_⟩, fun k => ?_⟩
  · exact (List.pairwise_mergeSort htrans htotal xs).imp fun hbefore => (hle _ _).1 hbefore
  · have hequal : (level key k xs).Pairwise fun x y => le x y = true := by
      refine List.pairwise_of_forall_mem_list fun x hx y hy => (hle x y).2 ?_
      exact Int.le_of_eq ((mem_level.1 hx).2.trans (mem_level.1 hy).2.symm)
    have hsub : (level key k xs).Sublist (level key k (xs.mergeSort le)) := by
      have hkept := (List.sublist_mergeSort htrans htotal hequal List.filter_sublist).filter
        fun x => decide (key x = k)
      simpa only [level, List.filter_filter, Bool.and_self] using hkept
    exact (hsub.eq_of_length ((hperm.filter _).length_eq.symm)).symm

/-! ## Turning lists around -/

/-- A list is ordered when the reversed one is by the opposite key. -/
theorem ordered_reverse {xs : List α} :
    Ordered (fun x => -key x) P xs.reverse ↔ Ordered key P xs := by
  have hrising : (xs.reverse.Pairwise fun x y => -key x ≤ -key y) ↔
      xs.Pairwise fun x y => key x ≤ key y := by
    rw [List.pairwise_reverse]
    simp only [Int.neg_le_neg_iff]
  exact ⟨fun h => ⟨fun x hx => h.all x (List.mem_reverse.2 hx), hrising.1 h.rising⟩,
    fun h => ⟨fun x hx => h.all x (List.mem_reverse.1 hx), hrising.2 h.rising⟩⟩

/-- Two lists hold items of one key in the same order when the reversed ones
do. -/
theorem Stably.of_reverse {xs ys : List α}
    (h : Stably (fun x => -key x) xs.reverse ys.reverse) : Stably key xs ys := by
  intro k
  have hlevel : ∀ items : List α,
      level (fun x => -key x) (-k) items.reverse = (level key k items).reverse := by
    intro items
    simp only [level, List.filter_reverse, Int.neg_inj]
  have hk := h (-k)
  rwa [hlevel, hlevel, List.reverse_inj] at hk

/-! ## Runs -/

/-- Along a run every item comes before its predecessor, or none does. -/
theorem goOn_pairwise (hranks : Ranks before key P) (falling : Bool) {last : α} {items : List α}
    (hlast : P last) (hitems : ∀ x ∈ items, P x) :
    (last :: (goOn before falling last items).1).Pairwise
      fun x y => decide (key y < key x) = falling := by
  induction items generalizing last with
  | nil => simp [goOn]
  | cons x rest ih =>
    have hx : P x := hitems x List.mem_cons_self
    have hrest := ih hx fun y hy => hitems y (List.mem_cons_of_mem _ hy)
    unfold goOn
    split
    · rename_i hbefore
      have hstep : decide (key x < key last) = falling := by
        rw [← hbefore, Bool.eq_iff_iff, hranks x last hx hlast, decide_eq_true_iff]
      refine List.pairwise_cons.2 ⟨fun y hy => ?_, hrest⟩
      rcases List.mem_cons.1 hy with rfl | hy
      · exact hstep
      · have hnext := List.rel_of_pairwise_cons hrest hy
        cases falling
        · rw [decide_eq_false_iff_not] at hstep hnext ⊢
          omega
        · rw [decide_eq_true_iff] at hstep hnext ⊢
          omega
    · simp

/-- The first run of a list is ordered. -/
theorem firstRun_ordered (hranks : Ranks before key P) {items : List α}
    (hitems : ∀ x ∈ items, P x) : Ordered key P (firstRun before items).1 := by
  have hmem := fun x hx => hitems x
    ((firstRun_perm before items).mem_iff.1 (List.mem_append_left _ hx))
  refine ⟨hmem, ?_⟩
  match items, hitems with
  | [], _ => exact .nil
  | [x], _ => exact List.pairwise_singleton _ x
  | x :: y :: rest, hitems =>
    have hx : P x := hitems x (by simp)
    have hfrom : ∀ z ∈ y :: rest, P z := fun z hz => hitems z (List.mem_cons_of_mem _ hz)
    have hpairs := goOn_pairwise hranks (before y x) hx hfrom
    have hrun : (goOn before (before y x) x (y :: rest)).1 =
        y :: (goOn before (before y x) y rest).1 := by
      simp [goOn]
    rw [hrun] at hpairs
    simp only [firstRun]
    cases hfalling : before y x with
    | false =>
      rw [hfalling] at hpairs
      apply hpairs.imp
      intro a b hab
      rw [decide_eq_false_iff_not] at hab
      omega
    | true =>
      rw [hfalling] at hpairs
      rw [if_pos rfl, List.pairwise_reverse]
      apply hpairs.imp
      intro a b hab
      rw [decide_eq_true_iff] at hab
      omega

/-- Cutting off the first run keeps the old order. -/
theorem stably_firstRun (hranks : Ranks before key P) {items : List α}
    (hitems : ∀ x ∈ items, P x) :
    Stably key ((firstRun before items).1 ++ (firstRun before items).2) items := by
  match items, hitems with
  | [], _ => exact .refl _
  | [x], _ => exact .refl _
  | x :: y :: rest, hitems =>
    have happend := goOn_append before (before y x) y rest
    simp only [firstRun]
    cases hfalling : before y x with
    | false =>
      rw [hfalling] at happend
      have hrefl : Stably key (x :: y :: rest) (x :: y :: rest) := .refl _
      simpa [happend] using hrefl
    | true =>
      rw [hfalling] at happend
      have hx : P x := hitems x (by simp)
      have hfrom : ∀ z ∈ y :: rest, P z := fun z hz => hitems z (List.mem_cons_of_mem _ hz)
      have hpairs := goOn_pairwise hranks true hx hfrom
      have hrun : (goOn before true x (y :: rest)).1 = y :: (goOn before true y rest).1 := by
        simp [goOn, hfalling]
      rw [hrun] at hpairs
      have hreverse := stably_reverse (hpairs.imp fun {a b} hab => by
        rw [decide_eq_true_iff] at hab
        exact (Int.ne_of_lt hab).symm)
      apply (Stably.append hreverse (.refl _)).trans
      have hrefl : Stably key (x :: y :: rest) (x :: y :: rest) := .refl _
      simpa [happend] using hrefl

/-- An item is put between those that it does not come before and the
others. -/
theorem insert_eq (hranks : Ranks before key P) {x : α} (hx : P x) {sorted : List α}
    (hsorted : Ordered key P sorted) :
    ∃ left right, sorted = left ++ right ∧ insert before x sorted = left ++ x :: right ∧
      (∀ y ∈ left, key y ≤ key x) ∧ ∀ y ∈ right, key x < key y := by
  unfold insert
  split
  · next hright =>
    have hnil : sorted = [] := by
      have hlength := congrArg List.length hright
      simp only [List.length_drop, List.length_nil] at hlength
      exact List.eq_nil_of_length_eq_zero (by omega)
    exact ⟨[], [], by simp [hnil]⟩
  · next middle right hright =>
    have hparts : sorted = sorted.take (sorted.length / 2) ++ middle :: right := by
      rw [← hright, List.take_append_drop]
    have hlength := congrArg List.length hright
    simp only [List.length_drop, List.length_cons] at hlength
    have hleftLength : (sorted.take (sorted.length / 2)).length < sorted.length := by
      rw [List.length_take]
      omega
    have hrightLength : right.length < sorted.length := by omega
    generalize sorted.take (sorted.length / 2) = front at hparts hleftLength
    rw [hparts] at hsorted
    obtain ⟨hfront, hback, hcross⟩ := ordered_append.1 hsorted
    obtain ⟨hmiddle, hright', hleast⟩ := ordered_cons.1 hback
    split
    · next hbefore =>
      have hless := (hranks x middle hx hmiddle).1 hbefore
      obtain ⟨low, high, hfrontEq, hinsert, hlow, hhigh⟩ := insert_eq hranks hx hfront
      refine ⟨low, high ++ middle :: right, by rw [hparts, hfrontEq, List.append_assoc],
        by simp [hinsert], hlow, fun y hy => ?_⟩
      rcases List.mem_append.1 hy with hy | hy
      · exact hhigh y hy
      · rcases List.mem_cons.1 hy with rfl | hy
        · exact hless
        · exact Int.lt_of_lt_of_le hless (hleast y hy)
    · next hbefore =>
      have hle : key middle ≤ key x :=
        (hranks.eq_false_iff hx hmiddle).1 (Bool.eq_false_iff.2 hbefore)
      obtain ⟨low, high, hrightEq, hinsert, hlow, hhigh⟩ := insert_eq hranks hx hright'
      refine ⟨front ++ middle :: low, high, by rw [hparts, hrightEq]; simp, by simp [hinsert],
        fun y hy => ?_, hhigh⟩
      rcases List.mem_append.1 hy with hy | hy
      · exact Int.le_trans (hcross y hy middle List.mem_cons_self) hle
      · rcases List.mem_cons.1 hy with rfl | hy
        · exact hle
        · exact hlow y hy
termination_by sorted.length

/-- Putting an item in its place keeps the list ordered. -/
theorem insert_ordered (hranks : Ranks before key P) {x : α} (hx : P x) {sorted : List α}
    (hsorted : Ordered key P sorted) : Ordered key P (insert before x sorted) := by
  obtain ⟨left, right, rfl, hinsert, hlow, hhigh⟩ := insert_eq hranks hx hsorted
  obtain ⟨hleft, hright, hcross⟩ := ordered_append.1 hsorted
  rw [hinsert, ordered_append, ordered_cons]
  refine ⟨hleft, ⟨hx, hright, fun y hy => Int.le_of_lt (hhigh y hy)⟩, fun y hy z hz => ?_⟩
  rcases List.mem_cons.1 hz with rfl | hz
  · exact hlow y hy
  · exact hcross y hy z hz

/-- An item goes after those with its key. -/
theorem stably_insert (hranks : Ranks before key P) {x : α} (hx : P x) {sorted : List α}
    (hsorted : Ordered key P sorted) : Stably key (insert before x sorted) (sorted ++ [x]) := by
  obtain ⟨left, right, rfl, hinsert, -, hhigh⟩ := insert_eq hranks hx hsorted
  intro k
  rw [hinsert, level_append, level_cons, level_append, level_append, level_cons]
  by_cases hk : key x = k
  · have hnone : level key k right = [] := level_eq_nil fun y hy hky => by
      have := hhigh y hy
      omega
    simp [hk, hnone]
  · simp [hk]

/-- Putting items in their places keeps the list ordered, and puts each after
those with its key. -/
theorem insertAll_ordered (hranks : Ranks before key P) {items sorted : List α}
    (hitems : ∀ x ∈ items, P x) (hsorted : Ordered key P sorted) :
    Ordered key P (insertAll before items sorted) ∧
      Stably key (insertAll before items sorted) (sorted ++ items) := by
  induction items generalizing sorted with
  | nil => exact ⟨hsorted, by simpa [insertAll] using Stably.refl sorted⟩
  | cons x rest ih =>
    have hx : P x := hitems x List.mem_cons_self
    obtain ⟨hordered, hstably⟩ := ih (fun y hy => hitems y (List.mem_cons_of_mem _ hy))
      (insert_ordered hranks hx hsorted)
    refine ⟨hordered, hstably.trans ?_⟩
    simpa using (stably_insert hranks hx hsorted).append (.refl rest)

/-- The first run takes an item at least. -/
theorem length_firstRun_snd_lt (before : α → α → Bool) (x : α) (rest : List α) :
    (firstRun before (x :: rest)).2.length < (x :: rest).length := by
  cases rest with
  | nil => simp [firstRun]
  | cons y rest =>
    have hlength := congrArg List.length (goOn_append before (before y x) y rest)
    rw [List.length_append] at hlength
    simp only [firstRun, List.length_cons]
    omega

/-- The runs of a list are ordered. -/
theorem ordered_of_mem_runs (hranks : Ranks before key P) (least : Nat) {count : Nat}
    {items : List α} (hcount : items.length ≤ count) (hitems : ∀ x ∈ items, P x) :
    ∀ run ∈ runs before least count items, Ordered key P run := by
  induction count generalizing items with
  | zero =>
    rw [List.eq_nil_of_length_eq_zero (Nat.le_zero.1 hcount)]
    simp [runs]
  | succ count ih =>
    cases items with
    | nil => simp [runs]
    | cons x rest =>
      have hothers : ∀ y ∈ (firstRun before (x :: rest)).2, P y := fun y hy =>
        hitems y ((firstRun_perm before _).mem_iff.1 (List.mem_append_right _ hy))
      have hlength := length_firstRun_snd_lt before x rest
      intro run hrun
      simp only [runs, List.mem_cons] at hrun
      rcases hrun with rfl | hrun
      · exact (insertAll_ordered hranks (fun y hy => hothers y (List.mem_of_mem_take hy))
          (firstRun_ordered hranks hitems)).1
      · refine ih ?_ (fun y hy => hothers y (List.mem_of_mem_drop hy)) run hrun
        rw [List.length_drop]
        simp only [List.length_cons] at hlength hcount
        omega

/-- Cutting a list into runs keeps the old order of items with one key. -/
theorem stably_flatten_runs (hranks : Ranks before key P) (least count : Nat) {items : List α}
    (hitems : ∀ x ∈ items, P x) : Stably key (runs before least count items).flatten items := by
  induction count generalizing items with
  | zero => cases items <;> simpa [runs] using Stably.refl _
  | succ count ih =>
    cases items with
    | nil => exact .refl _
    | cons x rest =>
      have hothers : ∀ y ∈ (firstRun before (x :: rest)).2, P y := fun y hy =>
        hitems y ((firstRun_perm before _).mem_iff.1 (List.mem_append_right _ hy))
      simp only [runs, List.flatten_cons]
      refine (Stably.append (insertAll_ordered hranks
        (fun y hy => hothers y (List.mem_of_mem_take hy)) (firstRun_ordered hranks hitems)).2
        (ih fun y hy => hothers y (List.mem_of_mem_drop hy))).trans ?_
      rw [List.append_assoc, List.take_append_drop]
      exact stably_firstRun hranks hitems

end FlowDesk.Sorting
