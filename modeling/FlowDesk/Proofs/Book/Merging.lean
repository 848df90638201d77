/-
# Merging keeps order

However a merge leaps and from whichever end it starts, two ordered runs come
out as their merge item by item (`Rule.merge_eq`), which is ordered and lets
the items of the first run go before those of the second with the same key.
Two neighbouring runs therefore come out as one (`mergeRuns_ordered`).
-/

import FlowDesk.Proofs.Book.Order

namespace FlowDesk.Sorting

variable {α : Type} {before : α → α → Bool} {key : α → Int} {P : α → Prop}

/-! ## Stretches -/

/-- The items with a property are the first `n` ones. -/
def EndsAt (holds : α → Bool) (items : List α) (n : Nat) : Prop :=
  ∀ i, items[i]?.any holds = true ↔ i < n

/-- Such items end within the list. -/
theorem EndsAt.le_length {holds : α → Bool} {items : List α} {n : Nat}
    (hends : EndsAt holds items n) : n ≤ items.length := by
  by_contra hlong
  have hlast := (hends items.length).2 (by omega)
  simp at hlast

/-- Bisection finds the end. -/
theorem bisect_eq {holds : α → Bool} (early : Bool) {items : List α} {n low high : Nat}
    (hends : EndsAt holds items n) (hlow : low ≤ n) (hhigh : n ≤ high) :
    bisect holds early items low high = n := by
  fun_induction bisect holds early items low high with
  | case1 low high hlt middle hholds ih =>
    exact ih ((hends middle).1 hholds) hhigh
  | case2 low high hlt middle hholds ih =>
    exact ih hlow (Nat.le_of_not_lt fun h => hholds ((hends middle).2 h))
  | case3 low high hlt => omega

/-- Leaps end around the end. -/
theorem leap_bounds {holds : α → Bool} {items : List α} {n last : Nat}
    (hends : EndsAt holds items n) (hlast : last < n) (next : Nat) :
    (leap holds items last next).1 < n ∧ n ≤ (leap holds items last next).2 := by
  fun_induction leap holds items last next with
  | case1 last next hlt hholds ih => exact ih ((hends next).1 hholds)
  | case2 last next hlt hholds =>
    exact ⟨hlast, Nat.le_of_not_lt fun h => hholds ((hends next).2 h)⟩
  | case3 last next hlt => exact ⟨hlast, hends.le_length⟩

/-- A stretch is as long as the items with its property. -/
theorem stretch_eq {holds : α → Bool} (early : Bool) {items : List α} {n : Nat}
    (hends : EndsAt holds items n) : stretch holds early items = n := by
  have hhead : items.head?.any holds = true ↔ 0 < n := by
    rw [List.head?_eq_getElem?]
    exact hends 0
  unfold stretch
  split
  · next hholds =>
    obtain ⟨hlast, hnext⟩ := leap_bounds hends (hhead.1 hholds) 1
    exact bisect_eq early hends hlast hnext
  · next hholds =>
    have := mt hhead.2 hholds
    omega

/-- A property that an item has when a later one does is that of the items of
a stretch, and of no others. -/
theorem exists_stretch {holds : α → Bool} (early : Bool) {items : List α}
    (hclosed : items.Pairwise fun x y => holds y = true → holds x = true) :
    ∃ front back, items = front ++ back ∧ stretch holds early items = front.length ∧
      (∀ x ∈ front, holds x = true) ∧ ∀ x ∈ back, holds x = false := by
  suffices h : ∃ front back, items = front ++ back ∧ EndsAt holds items front.length ∧
      (∀ x ∈ front, holds x = true) ∧ ∀ x ∈ back, holds x = false by
    obtain ⟨front, back, heq, hends, hfront, hback⟩ := h
    exact ⟨front, back, heq, stretch_eq early hends, hfront, hback⟩
  induction items with
  | nil => exact ⟨[], [], rfl, fun i => by simp, by simp, by simp⟩
  | cons x rest ih =>
    obtain ⟨hhead, htail⟩ := List.pairwise_cons.1 hclosed
    cases hx : holds x with
    | false =>
      have hnone : ∀ y ∈ x :: rest, holds y = false := by
        intro y hy
        rcases List.mem_cons.1 hy with rfl | hy
        · exact hx
        · apply Bool.eq_false_iff.2
          intro hholds
          rw [hhead y hy hholds] at hx
          cases hx
      refine ⟨[], x :: rest, rfl, fun i => ?_, by simp, hnone⟩
      cases hitem : (x :: rest)[i]? with
      | none => simp
      | some y => simp [hnone y (List.mem_of_getElem? hitem)]
    | true =>
      obtain ⟨front, back, rfl, hends, hfront, hback⟩ := ih htail
      refine ⟨x :: front, back, rfl, fun i => ?_, ?_, hback⟩
      · cases i with
        | zero => simp [hx]
        | succ i => simpa using hends i
      · intro y hy
        rcases List.mem_cons.1 hy with rfl | hy
        · exact hx
        · exact hfront y hy

/-! ## Moves -/

namespace Rule

variable {rule : Rule α} {first second : List α}

/-- The merge of two runs item by item. -/
def merged (rule : Rule α) (first second : List α) : List α :=
  first.merge second fun x y => !rule.secondFirst y x

@[simp] theorem merged_nil (rule : Rule α) (first : List α) : rule.merged first [] = first := by
  simp [merged]

@[simp] theorem nil_merged (rule : Rule α) (second : List α) : rule.merged [] second = second := by
  simp [merged]

theorem merged_cons_cons (rule : Rule α) (x y : α) (xs ys : List α) :
    rule.merged (x :: xs) (y :: ys) =
      if rule.secondFirst y x then y :: rule.merged (x :: xs) ys
      else x :: rule.merged xs (y :: ys) := by
  unfold merged
  rw [List.cons_merge_cons]
  cases rule.secondFirst y x <;> rfl

/-- Items that the head of the second run does not go before come first. -/
theorem merged_append_left {front : List α} {head : α}
    (hfront : ∀ x ∈ front, rule.secondFirst head x = false) (back rest : List α) :
    rule.merged (front ++ back) (head :: rest) = front ++ rule.merged back (head :: rest) := by
  induction front with
  | nil => rfl
  | cons x front ih =>
    rw [List.cons_append, merged_cons_cons, hfront x List.mem_cons_self,
      ih fun y hy => hfront y (List.mem_cons_of_mem _ hy)]
    rfl

/-- Items that go before the head of the first run come first. -/
theorem merged_append_right {front : List α} {head : α}
    (hfront : ∀ y ∈ front, rule.secondFirst y head = true) (back rest : List α) :
    rule.merged (head :: rest) (front ++ back) = front ++ rule.merged (head :: rest) back := by
  induction front with
  | nil => rfl
  | cons y front ih =>
    rw [List.cons_append, merged_cons_cons, hfront y List.mem_cons_self,
      ih fun z hz => hfront z (List.mem_cons_of_mem _ hz)]
    rfl

/-- The last item of the first run goes after all of the second. -/
def LastLast (key : α → Int) (first second : List α) : Prop :=
  ∀ last ∈ first.getLast?, ∀ y ∈ second, key y < key last

/-- It still does when both runs are partly used up. -/
theorem LastLast.suffix {first' second' : List α} (hlast : LastLast key first second)
    (hfirst : first' <:+ first) (hsecond : second' <:+ second) : LastLast key first' second' := by
  intro last hmem y hy
  obtain ⟨used, rfl⟩ := hfirst
  refine hlast last ?_ y (hsecond.subset hy)
  rw [Option.mem_def] at hmem ⊢
  rw [List.getLast?_append, hmem]
  rfl

/-- A settled merge is the merge item by item. -/
theorem settled?_eq (hranks : Ranks rule.secondFirst key P) (hfirst : ∀ x ∈ first, P x)
    (hsecond : ∀ y ∈ second, P y) (hlast : LastLast key first second) {rest : List α}
    (hrest : settled? first second = some rest) : rest = rule.merged first second := by
  unfold settled? at hrest
  split at hrest
  · cases hrest
    simp
  · cases hrest
    simp
  · rename_i last _
    cases hrest
    have hall : ∀ y ∈ second, rule.secondFirst y last = true := fun y hy =>
      (hranks y last (hsecond y hy) (hfirst last List.mem_cons_self)).2 (hlast last rfl y hy)
    have happend := merged_append_right hall [] []
    rw [List.append_nil, merged_nil] at happend
    exact happend.symm
  · cases hrest

end Rule

/-- A move puts out the items with which the merge begins. -/
structure Move.Advances (rule : Rule α) (first second : List α) (move : Move α) : Prop where
  merged : rule.merged first second = move.out ++ rule.merged move.first move.second
  ofFirst : move.first <:+ first
  ofSecond : move.second <:+ second
  shorter : settled? move.first move.second = none →
    move.first.length + move.second.length < first.length + second.length

namespace Rule

variable {rule : Rule α} {first second : List α}

/-- Taking a stretch of the first run advances the merge. -/
theorem takeFirst_advances (hranks : Ranks rule.secondFirst key P) (hfirst : Ordered key P first)
    (hsecond : Ordered key P second) (hopen : settled? first second = none) :
    (rule.takeFirst first second).Advances rule first second := by
  cases second with
  | nil => simp [settled?] at hopen
  | cons head rest =>
    obtain ⟨hhead, -, -⟩ := ordered_cons.1 hsecond
    have hclosed : first.Pairwise fun x y =>
        (!rule.secondFirst head y) = true → (!rule.secondFirst head x) = true := by
      apply hfirst.rising.imp_of_mem
      intro x y hx hy hle
      rw [Bool.not_eq_true', Bool.not_eq_true', hranks.eq_false_iff hhead (hfirst.all y hy),
        hranks.eq_false_iff hhead (hfirst.all x hx)]
      intro hhold
      exact Int.le_trans hle hhold
    obtain ⟨front, back, rfl, hstretch, hfront, hback⟩ := exists_stretch rule.backwards hclosed
    have hstay : ∀ x ∈ front, rule.secondFirst head x = false := fun x hx => by
      simpa using hfront x hx
    have hmerged := merged_append_left hstay back rest
    simp only [takeFirst, hstretch, List.take_left, List.drop_left]
    split
    · next hsettled =>
      exact ⟨hmerged, List.suffix_append _ _, List.suffix_refl _, fun hnone => by
        simp [hnone] at hsettled⟩
    · next hsettled =>
      cases back with
      | nil => simp [settled?] at hsettled
      | cons x back =>
        have hx : rule.secondFirst head x = true := by simpa using hback x List.mem_cons_self
        refine ⟨?_, List.suffix_append _ _, List.suffix_cons _ _, fun _ => ?_⟩
        · rw [hmerged, merged_cons_cons, if_pos hx]
          simp
        · simp only [List.length_append, List.length_cons]
          omega

/-- Taking a stretch of the second run advances the merge. -/
theorem takeSecond_advances (hranks : Ranks rule.secondFirst key P) (hfirst : Ordered key P first)
    (hsecond : Ordered key P second) (hopen : settled? first second = none) :
    (rule.takeSecond second first).Advances rule first second := by
  cases first with
  | nil => cases second <;> simp [settled?] at hopen
  | cons head rest =>
    obtain ⟨hhead, -, -⟩ := ordered_cons.1 hfirst
    have hclosed : second.Pairwise fun x y =>
        rule.secondFirst y head = true → rule.secondFirst x head = true := by
      apply hsecond.rising.imp_of_mem
      intro x y hx hy hle
      rw [hranks y head (hsecond.all y hy) hhead, hranks x head (hsecond.all x hx) hhead]
      intro hhold
      exact Int.lt_of_le_of_lt hle hhold
    obtain ⟨front, back, rfl, hstretch, hfront, hback⟩ := exists_stretch rule.backwards hclosed
    have hmerged := merged_append_right hfront back rest
    simp only [takeSecond, hstretch, List.take_left, List.drop_left]
    split
    · next hsettled =>
      exact ⟨hmerged, List.suffix_refl _, List.suffix_append _ _, fun hnone => by
        simp [hnone] at hsettled⟩
    · next hsettled =>
      cases back with
      | nil => simp [settled?] at hsettled
      | cons y back =>
        have hy : rule.secondFirst y head = false := hback y List.mem_cons_self
        refine ⟨?_, List.suffix_cons _ _, List.suffix_append _ _, fun _ => ?_⟩
        · rw [hmerged, merged_cons_cons, hy]
          simp
        · simp only [List.length_append, List.length_cons]
          omega

/-- Taking a stretch of either run advances the merge. -/
theorem take_advances (hranks : Ranks rule.secondFirst key P) (hfirst : Ordered key P first)
    (hsecond : Ordered key P second) (hopen : settled? first second = none) (ofSecond : Bool) :
    (rule.take ofSecond first second).Advances rule first second := by
  cases ofSecond
  · exact takeFirst_advances hranks hfirst hsecond hopen
  · exact takeSecond_advances hranks hfirst hsecond hopen

/-- Taking a stretch of each run advances the merge. -/
theorem takeBoth_advances (hranks : Ranks rule.secondFirst key P) (hfirst : Ordered key P first)
    (hsecond : Ordered key P second) (hopen : settled? first second = none) :
    (rule.takeBoth first second).Advances rule first second := by
  have hone := take_advances hranks hfirst hsecond hopen rule.backwards
  unfold takeBoth thenTake
  split
  · exact hone
  · next hnone =>
    have hother := take_advances hranks (hfirst.sublist hone.ofFirst.sublist)
      (hsecond.sublist hone.ofSecond.sublist) (by simpa using hnone) (!rule.backwards)
    refine ⟨?_, hother.ofFirst.trans hone.ofFirst, hother.ofSecond.trans hone.ofSecond,
      fun h => ?_⟩
    · rw [hone.merged, hother.merged, List.append_assoc]
    · exact Nat.lt_trans (hother.shorter h) (hone.shorter (by simpa using hnone))

/-! ## The whole merge -/

/-- What a merge comes to after a move: the rest when it is settled, and what the
merge puts out from there when it is not. -/
def continued (rule : Rule α) (count patience : Nat) (move : Move α) (next : Nat)
    (wins : Option (Nat × Nat)) : List α × Nat :=
  match settled? move.first move.second with
  | some rest => (move.out ++ rest, patience)
  | none =>
    let (merged, last) := rule.mergeOn count next wins move.first move.second
    (move.out ++ merged, last)

/-- After a move a merge comes to the merge item by item, if it does so from where
the move leads. -/
theorem continued_eq (hranks : Ranks rule.secondFirst key P) (hfirst : Ordered key P first)
    (hsecond : Ordered key P second) (hlast : LastLast key first second) {move : Move α}
    (hmove : move.Advances rule first second) (count patience next : Nat)
    (wins : Option (Nat × Nat))
    (hrest : settled? move.first move.second = none →
      (rule.mergeOn count next wins move.first move.second).1 =
        rule.merged move.first move.second) :
    (rule.continued count patience move next wins).1 = rule.merged first second := by
  have hlast' := hlast.suffix hmove.ofFirst hmove.ofSecond
  have hfirst' := hfirst.sublist hmove.ofFirst.sublist
  have hsecond' := hsecond.sublist hmove.ofSecond.sublist
  rw [hmove.merged]
  unfold continued
  split
  · next rest hsettled =>
    rw [settled?_eq hranks hfirst'.all hsecond'.all hlast' hsettled]
  · next hnone =>
    rw [← hrest hnone]

/-- A merge that is not settled goes on as the merge item by item. -/
theorem mergeOn_eq (hranks : Ranks rule.secondFirst key P) {count : Nat} (patience : Nat)
    (wins : Option (Nat × Nat)) (hfirst : Ordered key P first) (hsecond : Ordered key P second)
    (hlast : LastLast key first second) (hopen : settled? first second = none)
    (hcount : first.length + second.length ≤ count) :
    (rule.mergeOn count patience wins first second).1 = rule.merged first second := by
  induction count generalizing patience wins first second with
  | zero =>
    have hnil : second = [] := List.eq_nil_of_length_eq_zero (by omega)
    simp [hnil, settled?] at hopen
  | succ count ih =>
    have hgoOn : ∀ (move : Move α) (next : Nat) (wins : Option (Nat × Nat)),
        move.Advances rule first second →
        (rule.continued count patience move next wins).1 = rule.merged first second := by
      intro move next wins hmove
      apply continued_eq hranks hfirst hsecond hlast hmove count patience next wins
      intro hnone
      have hlength := hmove.shorter hnone
      exact ih next wins (hfirst.sublist hmove.ofFirst.sublist)
        (hsecond.sublist hmove.ofSecond.sublist) (hlast.suffix hmove.ofFirst hmove.ofSecond) hnone
        (by omega)
    unfold mergeOn
    dsimp only
    split
    · next x xs y ys =>
      split
      · next hbefore =>
        refine hgoOn ⟨[y], x :: xs, ys, 0⟩ _ _ ⟨?_, List.suffix_refl _, List.suffix_cons _ _, ?_⟩
        · rw [merged_cons_cons, if_pos hbefore]
          rfl
        · intro _
          simp only [List.length_cons]
          omega
      · next hbefore =>
        refine hgoOn ⟨[x], xs, y :: ys, 0⟩ _ _ ⟨?_, List.suffix_cons _ _, List.suffix_refl _, ?_⟩
        · rw [merged_cons_cons, if_neg hbefore]
          rfl
        · intro _
          simp only [List.length_cons]
          omega
    · have hboth := takeBoth_advances hranks hfirst hsecond hopen
      split
      · exact hgoOn _ _ _ hboth
      · exact hgoOn _ _ _ hboth

/-- The head of the second run goes before all of the first. -/
def HeadFirst (key : α → Int) (first second : List α) : Prop :=
  ∀ head ∈ second.head?, ∀ x ∈ first, key head < key x

/-- Merging two runs that overlap is merging them item by item. -/
theorem merge_eq (rule : Rule α) (hranks : Ranks rule.secondFirst key P) (patience : Nat)
    (hfirst : Ordered key P first) (hsecond : Ordered key P second)
    (hhead : HeadFirst key first second) (hlast : LastLast key first second) :
    (rule.merge patience first second).1 = rule.merged first second := by
  cases second with
  | nil => simp [merge]
  | cons head second =>
    obtain ⟨hP, hrest, -⟩ := ordered_cons.1 hsecond
    have hlast' := hlast.suffix (List.suffix_refl _) (List.suffix_cons head second)
    have hmerged : rule.merged first (head :: second) = head :: rule.merged first second := by
      cases first with
      | nil => simp
      | cons x xs =>
        have hx := (hranks head x hP (hfirst.all x List.mem_cons_self)).2
          (hhead head rfl x List.mem_cons_self)
        rw [merged_cons_cons, if_pos hx]
    simp only [merge]
    split
    · next rest hsettled =>
      rw [hmerged, settled?_eq hranks hfirst.all hrest.all hlast' hsettled]
    · next hopen =>
      rw [hmerged]
      exact congrArg _ (mergeOn_eq hranks patience _ hfirst hrest hlast' hopen (Nat.le_refl _))

/-- The merge of two ordered runs is ordered. -/
theorem merged_ordered (rule : Rule α) (hranks : Ranks rule.secondFirst key P)
    (hfirst : Ordered key P first) (hsecond : Ordered key P second) :
    Ordered key P (rule.merged first second) := by
  induction first generalizing second with
  | nil => simpa using hsecond
  | cons x xs ihFirst =>
    induction second with
    | nil => simpa using hfirst
    | cons y ys ihSecond =>
      obtain ⟨hx, hxs, hleastX⟩ := ordered_cons.1 hfirst
      obtain ⟨hy, hys, hleastY⟩ := ordered_cons.1 hsecond
      rw [merged_cons_cons]
      split
      · next hbefore =>
        have hless := (hranks y x hy hx).1 hbefore
        refine ordered_cons.2 ⟨hy, ihSecond hys, fun z hz => ?_⟩
        rcases List.mem_merge.1 hz with hz | hz
        · rcases List.mem_cons.1 hz with rfl | hz
          · exact Int.le_of_lt hless
          · exact Int.le_trans (Int.le_of_lt hless) (hleastX z hz)
        · exact hleastY z hz
      · next hbefore =>
        have hle := (hranks.eq_false_iff hy hx).1 (Bool.eq_false_iff.2 hbefore)
        refine ordered_cons.2 ⟨hx, ihFirst hxs hsecond, fun z hz => ?_⟩
        rcases List.mem_merge.1 hz with hz | hz
        · exact hleastX z hz
        · rcases List.mem_cons.1 hz with rfl | hz
          · exact hle
          · exact Int.le_trans hle (hleastY z hz)

/-- The merge of two ordered runs lets the first go before the second. -/
theorem stably_merged (rule : Rule α) (hranks : Ranks rule.secondFirst key P)
    (hfirst : Ordered key P first) (hsecond : ∀ y ∈ second, P y) :
    Stably key (rule.merged first second) (first ++ second) := by
  intro k
  induction first generalizing second with
  | nil => simp
  | cons x xs ihFirst =>
    induction second with
    | nil => simp
    | cons y ys ihSecond =>
      obtain ⟨hx, hxs, hleastX⟩ := ordered_cons.1 hfirst
      have hy : P y := hsecond y List.mem_cons_self
      rw [merged_cons_cons]
      split
      · next hbefore =>
        have hless := (hranks y x hy hx).1 hbefore
        rw [level_cons, ihSecond fun z hz => hsecond z (List.mem_cons_of_mem _ hz), level_append,
          level_append, level_cons k y]
        split
        · next hk =>
          have hnone : level key k (x :: xs) = [] := level_eq_nil fun z hz hzk => by
            rcases List.mem_cons.1 hz with rfl | hz
            · omega
            · have := hleastX z hz
              omega
          rw [hnone]
          rfl
        · rfl
      · rw [level_cons, ihFirst hxs hsecond, List.cons_append, level_cons]

end Rule

/-! ## Neighbouring runs -/

variable {left right : List α}

/-- Two runs that overlap come out as one, whichever is the longer. -/
theorem mergeOverlap_ordered (hranks : Ranks before key P) (patience : Nat)
    (hleft : Ordered key P left) (hright : Ordered key P right)
    (hhead : Rule.HeadFirst key left right) (hlast : Rule.LastLast key left right) :
    Ordered key P (mergeOverlap before patience left right).1 ∧
      Stably key (mergeOverlap before patience left right).1 (left ++ right) := by
  unfold mergeOverlap
  split
  · rw [Rule.merge_eq ⟨before, false⟩ hranks patience hleft hright hhead hlast]
    exact ⟨Rule.merged_ordered _ hranks hleft hright, Rule.stably_merged _ hranks hleft hright.all⟩
  · have hback : Ranks (fun x y => before y x) (fun x => -key x) P := by
      intro x y hx hy
      rw [hranks y x hy hx]
      exact Int.neg_lt_neg_iff.symm
    have hfirst := ordered_reverse.2 hright
    have hsecond := ordered_reverse.2 hleft
    have hhead' : Rule.HeadFirst (fun x => -key x) right.reverse left.reverse := by
      intro head hmem x hx
      rw [List.head?_reverse] at hmem
      exact Int.neg_lt_neg (hlast head hmem x (List.mem_reverse.1 hx))
    have hlast' : Rule.LastLast (fun x => -key x) right.reverse left.reverse := by
      intro last hmem y hy
      rw [List.getLast?_reverse] at hmem
      exact Int.neg_lt_neg (hhead last hmem y (List.mem_reverse.1 hy))
    have hordered := Rule.merged_ordered ⟨fun x y => before y x, true⟩ hback hfirst hsecond
    have hstably := Rule.stably_merged ⟨fun x y => before y x, true⟩ hback hfirst hsecond.all
    rw [← Rule.merge_eq _ hback patience hfirst hsecond hhead' hlast'] at hordered hstably
    refine ⟨ordered_reverse.1 ?_, Stably.of_reverse ?_⟩
    · rwa [List.reverse_reverse]
    · rwa [List.reverse_reverse, List.reverse_append]

/-- What is kept at the start of the left run goes before all of the right one,
whose head goes before all of the rest. -/
theorem exists_startKept (hranks : Ranks before key P) (hleft : Ordered key P left)
    (hright : Ordered key P right) :
    ∃ start rest, left = start ++ rest ∧ startKept before left right = start.length ∧
      (∀ x ∈ start, ∀ y ∈ right, key x ≤ key y) ∧ Rule.HeadFirst key rest right := by
  cases right with
  | nil => exact ⟨left, [], by simp, rfl, by simp, fun head hmem => by simp at hmem⟩
  | cons head right =>
    obtain ⟨hP, -, hleast⟩ := ordered_cons.1 hright
    have hclosed : left.Pairwise fun x y => (!before head y) = true → (!before head x) = true := by
      apply hleft.rising.imp_of_mem
      intro x y hx hy hle
      rw [Bool.not_eq_true', Bool.not_eq_true', hranks.eq_false_iff hP (hleft.all y hy),
        hranks.eq_false_iff hP (hleft.all x hx)]
      intro hhold
      exact Int.le_trans hle hhold
    obtain ⟨start, rest, rfl, hstretch, hfront, hback⟩ := exists_stretch false hclosed
    refine ⟨start, rest, rfl, hstretch, fun x hx y hy => ?_, fun y hy x hx => ?_⟩
    · have hx' := (hranks.eq_false_iff hP (hleft.all x (List.mem_append_left _ hx))).1
        (by simpa using hfront x hx)
      rcases List.mem_cons.1 hy with rfl | hy
      · exact hx'
      · exact Int.le_trans hx' (hleast y hy)
    · cases hy
      exact (hranks head x hP (hleft.all x (List.mem_append_right _ hx))).1
        (by simpa using hback x hx)

/-- What is kept at the end of the right run goes after all of the left one,
whose last item goes after all of the rest. -/
theorem exists_endMerged (hranks : Ranks before key P) (hleft : Ordered key P left)
    (hright : Ordered key P right) :
    ∃ rest finish, right = rest ++ finish ∧ endMerged before left right = rest.length ∧
      (∀ x ∈ left, ∀ y ∈ finish, key x ≤ key y) ∧ Rule.LastLast key left rest := by
  unfold endMerged
  cases hlast : left.getLast? with
  | none =>
    have hnil : left = [] := List.getLast?_eq_none_iff.1 hlast
    refine ⟨[], right, rfl, rfl, by simp [hnil], fun last hmem => ?_⟩
    rw [hlast] at hmem
    cases hmem
  | some last =>
    obtain ⟨init, rfl⟩ := List.getLast?_eq_some_iff.1 hlast
    obtain ⟨-, hlastOrdered, hinit⟩ := ordered_append.1 hleft
    have hP : P last := hlastOrdered.all last List.mem_cons_self
    have hclosed : right.reverse.Pairwise fun x y =>
        (!before y last) = true → (!before x last) = true := by
      rw [List.pairwise_reverse]
      apply hright.rising.imp_of_mem
      intro x y hx hy hle
      rw [Bool.not_eq_true', Bool.not_eq_true', hranks.eq_false_iff (hright.all x hx) hP,
        hranks.eq_false_iff (hright.all y hy) hP]
      intro hhold
      exact Int.le_trans hhold hle
    obtain ⟨front, back, hreverse, hstretch, hfront, hback⟩ := exists_stretch true hclosed
    have hparts : right = back.reverse ++ front.reverse := by
      rw [← List.reverse_append, ← hreverse, List.reverse_reverse]
    have hmem : ∀ x ∈ front ++ back, P x := by
      rw [← hreverse]
      intro x hx
      exact hright.all x (List.mem_reverse.1 hx)
    have hlength : right.length - front.length = back.reverse.length := by
      rw [hparts, List.length_append, List.length_reverse, List.length_reverse]
      omega
    refine ⟨back.reverse, front.reverse, hparts, ?_, fun x hx y hy => ?_, fun own hown y hy => ?_⟩
    · rw [← hlength, ← hstretch]
    · rw [List.mem_reverse] at hy
      have hy' := (hranks.eq_false_iff (hmem y (List.mem_append_left _ hy)) hP).1
        (by simpa using hfront y hy)
      rcases List.mem_append.1 hx with hx | hx
      · exact Int.le_trans (hinit x hx last List.mem_cons_self) hy'
      · rw [List.mem_singleton.1 hx]
        exact hy'
    · rw [hlast] at hown
      cases hown
      rw [List.mem_reverse] at hy
      exact (hranks y last (hmem y (List.mem_append_right _ hy)) hP).1
        (by simpa using hback y hy)

/-- Two neighbouring runs come out as one. -/
theorem mergeRuns_ordered (hranks : Ranks before key P) (patience : Nat)
    (hleft : Ordered key P left) (hright : Ordered key P right) :
    Ordered key P (mergeRuns before patience left right).1 ∧
      Stably key (mergeRuns before patience left right).1 (left ++ right) := by
  obtain ⟨start, rest, rfl, hstart, hstartLe, hhead⟩ := exists_startKept hranks hleft hright
  obtain ⟨hstartOrdered, hrest, hstartRest⟩ := ordered_append.1 hleft
  obtain ⟨inner, finish, rfl, hfinish, hfinishLe, hlast⟩ := exists_endMerged hranks hrest hright
  obtain ⟨hinner, hfinishOrdered, hinnerFinish⟩ := ordered_append.1 hright
  have hhead' : Rule.HeadFirst key rest inner := by
    intro head hmem x hx
    refine hhead head ?_ x hx
    rw [Option.mem_def] at hmem ⊢
    rw [List.head?_append, hmem]
    rfl
  obtain ⟨hmerged, hstably⟩ := mergeOverlap_ordered hranks patience hrest hinner hhead' hlast
  have hmem : ∀ x, x ∈ (mergeOverlap before patience rest inner).1 ↔ x ∈ rest ∨ x ∈ inner :=
    fun x => by rw [hstably.mem_iff, List.mem_append]
  simp only [mergeRuns, hstart, List.take_left, List.drop_left, hfinish]
  refine ⟨ordered_append.2 ⟨ordered_append.2 ⟨hstartOrdered, hmerged, fun x hx y hy => ?_⟩,
    hfinishOrdered, fun x hx y hy => ?_⟩, ?_⟩
  · rcases (hmem y).1 hy with hy | hy
    · exact hstartRest x hx y hy
    · exact hstartLe x hx y (List.mem_append_left _ hy)
  · rcases List.mem_append.1 hx with hx | hx
    · exact hstartLe x hx y (List.mem_append_right _ hy)
    · rcases (hmem x).1 hx with hx | hx
      · exact hfinishLe x hx y hy
      · exact hinnerFinish x hx y hy
  · have happend := ((Stably.refl start).append hstably).append (Stably.refl finish)
    simpa [List.append_assoc] using happend

end FlowDesk.Sorting
