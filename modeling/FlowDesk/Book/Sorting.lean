/-
# Sorting by runs

A list is sorted by a comparison that says which of two items comes strictly
before the other. It is cut into the runs that it consists of; a run that falls
is turned around, and a short one is filled up by bisection. Neighbouring runs
are then merged until one is left, those first that lie deepest in a balanced
tree over the list. Where one of two runs wins several times in a row, the
merge leaps ahead to find the end of its stretch.

The result is fixed for any comparison, also for one that goes round in
circles; for one that does not, it is the list in order with equal items in
their old order. The main statement is `sort_perm`: no item is lost or added.
-/

namespace FlowDesk.Sorting

variable {α : Type}

/-! ## Runs -/

/-- Go on with a run after its last item: the items that belong to it, and
those after it. In a falling run every item comes before its predecessor, in a
rising run none does. -/
def goOn (before : α → α → Bool) (falling : Bool) (last : α) : List α → List α × List α
  | [] => ([], [])
  | x :: rest =>
    if before x last = falling then
      let (run, others) := goOn before falling x rest
      (x :: run, others)
    else ([], x :: rest)

/-- The run with which a list begins, in rising order, and the items after
it. -/
def firstRun (before : α → α → Bool) : List α → List α × List α
  | [] => ([], [])
  | [x] => ([x], [])
  | x :: y :: rest =>
    let falling := before y x
    let (run, others) := goOn before falling y rest
    (if falling then (x :: y :: run).reverse else x :: y :: run, others)

/-- Put an item in its place by bisection, after the items that it does not
come before. -/
def insert (before : α → α → Bool) (x : α) (sorted : List α) : List α :=
  match _hright : sorted.drop (sorted.length / 2) with
  | [] => [x]
  | middle :: right =>
    if before x middle then
      insert before x (sorted.take (sorted.length / 2)) ++ middle :: right
    else
      sorted.take (sorted.length / 2) ++ middle :: insert before x right
termination_by sorted.length
decreasing_by
  all_goals
    have hlength := congrArg List.length _hright
    simp only [List.length_drop, List.length_cons] at hlength
  · rw [List.length_take]
    omega
  · omega

/-- Put items in their places one after the other. -/
def insertAll (before : α → α → Bool) (items sorted : List α) : List α :=
  items.foldl (fun sorted x => insert before x sorted) sorted

/-- The length below which no run is cut further. -/
def shortList : Nat := 64

/-- Halve a length until it is short; a remainder counts once. -/
def halved (length : Nat) (remainder : Bool) : Nat :=
  if length < shortList then length + remainder.toNat
  else halved (length / 2) (remainder || length % 2 = 1)
termination_by length
decreasing_by
  have hlong : 64 ≤ length := by simpa [shortList] using ‹¬length < shortList›
  omega

/-- The least length of the runs of a list: such that their number is a power
of two, or just below one. -/
def leastRun (length : Nat) : Nat := halved length false

/-- The runs of a list, short ones filled up from the items after them. There
are at most as many runs as `count`, which the length of the list bounds. -/
def runs (before : α → α → Bool) (least : Nat) : Nat → List α → List (List α)
  | _, [] => []
  | 0, items => [items]
  | count + 1, x :: rest =>
    let (run, others) := firstRun before (x :: rest)
    let missing := least - run.length
    insertAll before (others.take missing) run :: runs before least count (others.drop missing)

/-! ## Stretches -/

/-- Where the items with a property end, found by bisection: those before
`low` have it, and those from `high` on have not. In the middle of an even
number of items an early search looks at the earlier one. -/
def bisect (holds : α → Bool) (early : Bool) (items : List α) (low high : Nat) : Nat :=
  if low < high then
    let middle := low + (high - low - early.toNat) / 2
    if items[middle]?.any holds then bisect holds early items (middle + 1) high
    else bisect holds early items low middle
  else low
termination_by high - low
decreasing_by
  all_goals
    have hhalf : (high - low - early.toNat) / 2 ≤ (high - low) / 2 :=
      Nat.div_le_div_right (Nat.sub_le _ _)
    omega

/-- Leap over items with a property, each time twice as far: the place of the
last one met that has it, and one at which they have ended. -/
def leap (holds : α → Bool) (items : List α) (last next : Nat) : Nat × Nat :=
  if next < items.length then
    if items[next]?.any holds then leap holds items next (2 * next + 1) else (last, next)
  else (last, items.length)
termination_by items.length - next

/-- The number of items with a property with which a list begins, found by
leaps and bisection. -/
def stretch (holds : α → Bool) (early : Bool) (items : List α) : Nat :=
  if items.head?.any holds then
    let (last, next) := leap holds items 0 1
    bisect holds early items (last + 1) next
  else 0

/-! ## Merging two runs -/

/-- How two runs are merged from their heads: whether an item of the second
run goes before one of the first, and whether the runs are given backwards. -/
structure Rule (α : Type) where
  secondFirst : α → α → Bool
  backwards : Bool

/-- The end of a merge, when it is settled: one run is used up, or a single
item of the first is left, which is known to go last. -/
def settled? : List α → List α → Option (List α)
  | first, [] => some first
  | [], second => some second
  | [last], second => some (second ++ [last])
  | _, _ => none

/-- What one move of a merge puts out, what is left of both runs, and how long
a stretch it took. -/
structure Move (α : Type) where
  out : List α
  first : List α
  second : List α
  length : Nat

namespace Rule

/-- Take the stretch of the first run that goes before the head of the second,
and that head. -/
def takeFirst (rule : Rule α) (first : List α) : List α → Move α
  | [] => ⟨[], first, [], 0⟩
  | head :: rest =>
    let length := stretch (fun x => !rule.secondFirst head x) rule.backwards first
    let left := first.drop length
    if (settled? left (head :: rest)).isSome then ⟨first.take length, left, head :: rest, length⟩
    else ⟨first.take length ++ [head], left, rest, length⟩

/-- Take the stretch of the second run that goes before the head of the first,
and that head. -/
def takeSecond (rule : Rule α) (second : List α) : List α → Move α
  | [] => ⟨[], [], second, 0⟩
  | head :: rest =>
    let length := stretch (fun x => rule.secondFirst x head) rule.backwards second
    let left := second.drop length
    if (settled? (head :: rest) left).isSome then ⟨second.take length, head :: rest, left, length⟩
    else ⟨second.take length ++ [head], rest, left, length⟩

/-- The stretch that makes leaping worth while. -/
def longStretch : Nat := 7

/-- Take a stretch of one of the runs. -/
def take (rule : Rule α) (ofSecond : Bool) (first second : List α) : Move α :=
  if ofSecond then rule.takeSecond second first else rule.takeFirst first second

/-- Make another move after a first one, unless the merge is settled. -/
def thenTake (rule : Rule α) (ofSecond : Bool) (move : Move α) : Move α :=
  if (settled? move.first move.second).isSome then move
  else
    let other := rule.take ofSecond move.first move.second
    ⟨move.out ++ other.out, other.first, other.second, max move.length other.length⟩

/-- Take a stretch of each run, of the second one first when the runs are given
backwards. -/
def takeBoth (rule : Rule α) (first second : List α) : Move α :=
  rule.thenTake (!rule.backwards) (rule.take rule.backwards first second)

/-- Go on with a merge that is not settled. `wins` counts how often in a row
the first and the second run have won, and is absent while the merge leaps;
`patience` is the number of wins after which it begins to. Each turn puts out
an item, and there are at most as many turns as `count`, which the items
bound. The patience at the end is that for the next merge. -/
def mergeOn (rule : Rule α) : Nat → Nat → Option (Nat × Nat) → List α → List α → List α × Nat
  | 0, patience, _, first, second => (first ++ second, patience)
  | count + 1, patience, wins, first, second =>
    let goOn (out first second : List α) (next : Nat) (wins : Option (Nat × Nat)) :=
      match settled? first second with
      | some rest => (out ++ rest, patience)
      | none =>
        let (merged, last) := mergeOn rule count next wins first second
        (out ++ merged, last)
    match wins, first, second with
    | some (firstWins, secondWins), x :: xs, y :: ys =>
      if rule.secondFirst y x then
        goOn [y] (x :: xs) ys patience
          (if patience ≤ secondWins + 1 then none else some (0, secondWins + 1))
      else
        goOn [x] xs (y :: ys) patience
          (if patience ≤ firstWins + 1 then none else some (firstWins + 1, 0))
    | _, first, second =>
      let move := rule.takeBoth first second
      if longStretch ≤ move.length then
        goOn move.out move.first move.second (max 1 (patience - 1)) none
      else goOn move.out move.first move.second (patience + 1) (some (0, 0))

/-- Merge two runs of which the head of the second goes first. -/
def merge (rule : Rule α) (patience : Nat) (first : List α) : List α → List α × Nat
  | [] => (first, patience)
  | head :: second =>
    match settled? first second with
    | some rest => (head :: rest, patience)
    | none =>
      let (merged, last) :=
        rule.mergeOn (first.length + second.length) patience (some (0, 0)) first second
      (head :: merged, last)

end Rule

/-- The number of items of a run that stay where they are, because they go
before all of the run after it. -/
def startKept (before : α → α → Bool) (left right : List α) : Nat :=
  match right with
  | [] => left.length
  | head :: _ => stretch (fun x => !before head x) false left

/-- The number of items of a run that do not go after all of the run before
it. -/
def endMerged (before : α → α → Bool) (left right : List α) : Nat :=
  match left.getLast? with
  | none => 0
  | some last => right.length - stretch (fun x => !before x last) true right.reverse

/-- Merge two runs that overlap, from their far ends if the left one is the
longer. -/
def mergeOverlap (before : α → α → Bool) (patience : Nat) (left right : List α) : List α × Nat :=
  if left.length ≤ right.length then Rule.merge ⟨before, false⟩ patience left right
  else
    let (merged, next) :=
      Rule.merge ⟨fun x y => before y x, true⟩ patience right.reverse left.reverse
    (merged.reverse, next)

/-- Merge two neighbouring runs. What goes before or after all of the other
run stays where it is. -/
def mergeRuns (before : α → α → Bool) (patience : Nat) (left right : List α) : List α × Nat :=
  let start := startKept before left right
  let finish := endMerged before (left.drop start) right
  let (merged, next) := mergeOverlap before patience (left.drop start) (right.take finish)
  (left.take start ++ merged ++ right.drop finish, next)

/-! ## Merging all runs -/

/-- A run that waits to be merged: where it begins in the list, and how deep
the cut after it lies in a balanced tree over the list. -/
structure Pending (α : Type) where
  start : Nat
  run : List α
  depth : Nat

/-- How deep the cut between two neighbouring runs lies in a balanced tree over
a list of `total` items, when twice their middles are at `a` and `b`: the first
level at which the middles fall apart. The levels are bounded by `levels`. -/
def cutDepth (total : Nat) : Nat → Nat → Nat → Nat
  | 0, _, _ => 1
  | levels + 1, a, b =>
    if a / total = b / total then cutDepth total levels (2 * a) (2 * b) + 1 else 1

/-- Merge the newest run with those before it whose cuts lie deeper than a new
cut. -/
def mergeDeeper (before : α → α → Bool) (depth : Nat) :
    Pending α → List (Pending α) → Nat → Pending α × List (Pending α) × Nat
  | top, [], patience => (top, [], patience)
  | top, below :: rest, patience =>
    if depth < below.depth then
      let merged := mergeRuns before patience below.run top.run
      mergeDeeper before depth ⟨below.start, merged.1, below.depth⟩ rest merged.2
    else (top, below :: rest, patience)

/-- Take a run after the waiting ones, the newest of which comes first. -/
def push (before : α → α → Bool) (total : Nat) (state : List (Pending α) × Nat) (run : List α) :
    List (Pending α) × Nat :=
  match state with
  | ([], patience) => ([⟨0, run, 0⟩], patience)
  | (top :: rest, patience) =>
    let a := 2 * top.start + top.run.length
    let depth := cutDepth total total a (a + top.run.length + run.length)
    let (newest, others, next) := mergeDeeper before depth top rest patience
    (⟨top.start + top.run.length, run, 0⟩ :: { newest with depth := depth } :: others, next)

/-- Merge the runs that are left, the last one first, so that of three runs
the shorter outer one is merged. -/
def mergeAll (before : α → α → Bool) (patience : Nat) : List (List α) → List α
  | [] => []
  | [run] => run
  | [top, below] => (mergeRuns before patience below top).1
  | top :: below :: third :: rest =>
    if third.length < top.length then
      let (merged, next) := mergeRuns before patience third below
      mergeAll before next (top :: merged :: rest)
    else
      let (merged, next) := mergeRuns before patience below top
      mergeAll before next (merged :: third :: rest)
termination_by waiting => waiting.length

/-- The items of a list in order. -/
def sort (before : α → α → Bool) (items : List α) : List α :=
  let (waiting, patience) :=
    (runs before (leastRun items.length) items.length items).foldl
      (push before items.length) ([], Rule.longStretch)
  mergeAll before patience (waiting.map Pending.run)

/-! ## No item is lost or added -/

theorem goOn_append (before : α → α → Bool) (falling : Bool) (last : α) (items : List α) :
    (goOn before falling last items).1 ++ (goOn before falling last items).2 = items := by
  induction items generalizing last with
  | nil => rfl
  | cons x rest ih =>
    unfold goOn
    split
    · simp [ih]
    · rfl

theorem firstRun_perm (before : α → α → Bool) (items : List α) :
    ((firstRun before items).1 ++ (firstRun before items).2).Perm items := by
  match items with
  | [] => exact .nil
  | [x] => exact .refl _
  | x :: y :: rest =>
    have happend := goOn_append before (before y x) y rest
    simp only [firstRun]
    split
    · apply ((List.reverse_perm _).append_right _).trans
      simp [happend]
    · simp [happend]

theorem insert_perm (before : α → α → Bool) (x : α) (sorted : List α) :
    (insert before x sorted).Perm (x :: sorted) := by
  unfold insert
  split
  · next hright =>
    have hnil : sorted = [] := by
      have hlength := congrArg List.length hright
      simp only [List.length_drop, List.length_nil] at hlength
      exact List.eq_nil_of_length_eq_zero (by omega)
    rw [hnil]
  · next middle right hright =>
    have hsorted : sorted.take (sorted.length / 2) ++ middle :: right = sorted := by
      rw [← hright, List.take_append_drop]
    have hleft : (sorted.take (sorted.length / 2)).length < sorted.length := by
      have hlength := congrArg List.length hright
      simp only [List.length_drop, List.length_cons] at hlength
      simp only [List.length_take]
      omega
    have hright' : right.length < sorted.length := by
      have hlength := congrArg List.length hright
      simp only [List.length_drop, List.length_cons] at hlength
      omega
    split
    · have h := (insert_perm before x (sorted.take (sorted.length / 2))).append_right
        (middle :: right)
      rw [List.cons_append, hsorted] at h
      exact h
    · have h := ((insert_perm before x right).cons middle).append_left
        (sorted.take (sorted.length / 2))
      apply h.trans
      have hswap := ((List.Perm.swap x middle right).append_left
        (sorted.take (sorted.length / 2))).trans List.perm_middle
      rw [hsorted] at hswap
      exact hswap
termination_by sorted.length

theorem insertAll_perm (before : α → α → Bool) (items sorted : List α) :
    (insertAll before items sorted).Perm (sorted ++ items) := by
  induction items generalizing sorted with
  | nil => simp [insertAll]
  | cons x rest ih =>
    apply (ih (insert before x sorted)).trans
    apply ((insert_perm before x sorted).append_right rest).trans
    exact List.perm_middle.symm

theorem runs_perm (before : α → α → Bool) (least count : Nat) (items : List α) :
    (runs before least count items).flatten.Perm items := by
  induction count generalizing items with
  | zero => cases items <;> simp [runs]
  | succ count ih =>
    cases items with
    | nil => simp [runs]
    | cons x rest =>
      simp only [runs, List.flatten_cons]
      apply ((insertAll_perm before _ _).append (ih _)).trans
      rw [List.append_assoc, List.take_append_drop]
      exact firstRun_perm before (x :: rest)

theorem settled?_perm {first second rest : List α} (hrest : settled? first second = some rest) :
    rest.Perm (first ++ second) := by
  unfold settled? at hrest
  split at hrest
  · cases hrest; simp
  · cases hrest; simp
  · cases hrest; exact List.perm_append_comm
  · cases hrest

namespace Move

/-- All items of a move: those put out and those left. -/
def items (move : Move α) : List α := move.out ++ (move.first ++ move.second)

end Move

namespace Rule

theorem takeFirst_perm (rule : Rule α) (first second : List α) :
    (rule.takeFirst first second).items.Perm (first ++ second) := by
  cases second with
  | nil => simp [takeFirst, Move.items]
  | cons head rest =>
    simp only [takeFirst]
    split
    · simp [Move.items, ← List.append_assoc, List.take_append_drop]
    · simp only [Move.items, List.append_assoc, List.singleton_append]
      apply (List.Perm.append_left _ List.perm_middle.symm).trans
      rw [← List.append_assoc, List.take_append_drop]

theorem takeSecond_perm (rule : Rule α) (second first : List α) :
    (rule.takeSecond second first).items.Perm (first ++ second) := by
  cases first with
  | nil => simp [takeSecond, Move.items]
  | cons head rest =>
    simp only [takeSecond]
    split
    · simp only [Move.items]
      apply (List.perm_append_comm_assoc _ _ _).trans
      rw [List.take_append_drop]
    · simp only [Move.items, List.append_assoc, List.singleton_append]
      refine List.perm_middle.trans (.cons head ?_)
      apply (List.perm_append_comm_assoc _ _ _).trans
      rw [List.take_append_drop]
      exact .refl _

theorem take_perm (rule : Rule α) (ofSecond : Bool) (first second : List α) :
    (rule.take ofSecond first second).items.Perm (first ++ second) := by
  cases ofSecond
  · exact rule.takeFirst_perm first second
  · exact rule.takeSecond_perm second first

theorem thenTake_perm (rule : Rule α) (ofSecond : Bool) (move : Move α) :
    (rule.thenTake ofSecond move).items.Perm move.items := by
  unfold thenTake
  split
  · exact .refl _
  · simp only [Move.items, List.append_assoc]
    exact List.Perm.append_left _ (rule.take_perm ofSecond move.first move.second)

theorem takeBoth_perm (rule : Rule α) (first second : List α) :
    (rule.takeBoth first second).items.Perm (first ++ second) :=
  (rule.thenTake_perm _ _).trans (rule.take_perm _ _ _)

theorem mergeOn_perm (rule : Rule α) (count patience : Nat) (wins : Option (Nat × Nat))
    (first second : List α) :
    (rule.mergeOn count patience wins first second).1.Perm (first ++ second) := by
  induction count generalizing patience wins first second with
  | zero => exact .refl _
  | succ count ih =>
    have hgoOn : ∀ (out left right : List α) (next : Nat) (wins : Option (Nat × Nat)),
        (match settled? left right with
          | some rest => (out ++ rest, patience)
          | none =>
            let (merged, last) := mergeOn rule count next wins left right
            (out ++ merged, last)).1.Perm (out ++ (left ++ right)) := by
      intro out left right next wins
      split
      · next rest hrest => exact (settled?_perm hrest).append_left out
      · exact (ih next wins left right).append_left out
    unfold mergeOn
    dsimp only
    split
    · next x xs y ys =>
      split
      · apply (hgoOn _ _ _ _ _).trans
        have hmiddle : (x :: xs ++ y :: ys).Perm (y :: (x :: xs ++ ys)) := List.perm_middle
        exact hmiddle.symm
      · exact hgoOn _ _ _ _ _
    · split
      · exact (hgoOn _ _ _ _ _).trans (rule.takeBoth_perm first second)
      · exact (hgoOn _ _ _ _ _).trans (rule.takeBoth_perm first second)

theorem merge_perm (rule : Rule α) (patience : Nat) (first second : List α) :
    (rule.merge patience first second).1.Perm (first ++ second) := by
  cases second with
  | nil => simp [merge]
  | cons head rest =>
    simp only [merge]
    split
    · next merged hmerged =>
      exact ((settled?_perm hmerged).cons head).trans List.perm_middle.symm
    · exact ((rule.mergeOn_perm _ _ _ first rest).cons head).trans List.perm_middle.symm

end Rule

theorem mergeOverlap_perm (before : α → α → Bool) (patience : Nat) (left right : List α) :
    (mergeOverlap before patience left right).1.Perm (left ++ right) := by
  unfold mergeOverlap
  split
  · exact Rule.merge_perm _ _ _ _
  · refine (List.reverse_perm _).trans ((Rule.merge_perm _ _ _ _).trans ?_)
    exact ((List.reverse_perm _).append (List.reverse_perm _)).trans List.perm_append_comm

theorem mergeRuns_perm (before : α → α → Bool) (patience : Nat) (left right : List α) :
    (mergeRuns before patience left right).1.Perm (left ++ right) := by
  unfold mergeRuns
  dsimp only
  apply (((mergeOverlap_perm before patience _ _).append_left _).append_right _).trans
  rw [← List.append_assoc, List.take_append_drop, List.append_assoc, List.take_append_drop]

/-- All items of some waiting runs, the newest of which comes first. -/
def waitingItems (waiting : List (Pending α)) : List α :=
  (waiting.map Pending.run).reverse.flatten

theorem waitingItems_cons (top : Pending α) (waiting : List (Pending α)) :
    waitingItems (top :: waiting) = waitingItems waiting ++ top.run := by
  simp [waitingItems]

theorem mergeDeeper_perm (before : α → α → Bool) (depth : Nat) (top : Pending α)
    (rest : List (Pending α)) (patience : Nat) :
    (waitingItems ((mergeDeeper before depth top rest patience).1 ::
      (mergeDeeper before depth top rest patience).2.1)).Perm (waitingItems (top :: rest)) := by
  induction rest generalizing top patience with
  | nil => exact .refl _
  | cons below rest ih =>
    unfold mergeDeeper
    split
    · apply (ih _ _).trans
      simp only [waitingItems_cons, List.append_assoc]
      exact (mergeRuns_perm before patience below.run top.run).append_left _
    · exact .refl _

theorem push_perm (before : α → α → Bool) (total : Nat) (state : List (Pending α) × Nat)
    (run : List α) :
    (waitingItems (push before total state run).1).Perm (waitingItems state.1 ++ run) := by
  obtain ⟨waiting, patience⟩ := state
  cases waiting with
  | nil => simp [push, waitingItems]
  | cons top rest =>
    simp only [push]
    rw [waitingItems_cons]
    apply List.Perm.append_right run
    exact mergeDeeper_perm before _ top rest patience

theorem foldl_push_perm (before : α → α → Bool) (total : Nat) (cut : List (List α))
    (state : List (Pending α) × Nat) :
    (waitingItems (cut.foldl (push before total) state).1).Perm
      (waitingItems state.1 ++ cut.flatten) := by
  induction cut generalizing state with
  | nil => simp
  | cons run cut ih =>
    apply (ih _).trans
    apply ((push_perm before total state run).append_right cut.flatten).trans
    simp

theorem mergeAll_perm (before : α → α → Bool) (patience : Nat) (waiting : List (List α)) :
    (mergeAll before patience waiting).Perm waiting.reverse.flatten := by
  fun_induction mergeAll before patience waiting with
  | case1 => exact .nil
  | case2 => simp
  | case3 => simpa using mergeRuns_perm before _ _ _
  | case4 patience top below third rest _ merged next hmerged ih =>
    apply ih.trans
    have hperm := mergeRuns_perm before patience third below
    rw [hmerged] at hperm
    simp only [List.reverse_cons, List.flatten_append, List.flatten_singleton, List.append_assoc]
    apply List.Perm.append_left _
    rw [← List.append_assoc]
    exact hperm.append_right _
  | case5 patience top below third rest _ merged next hmerged ih =>
    apply ih.trans
    have hperm := mergeRuns_perm before patience below top
    rw [hmerged] at hperm
    simp only [List.reverse_cons, List.flatten_append, List.flatten_singleton, List.append_assoc]
    exact List.Perm.append_left _ (hperm.append_left _)

/-- Sorting loses no item and adds none. -/
theorem sort_perm (before : α → α → Bool) (items : List α) :
    (sort before items).Perm items := by
  unfold sort
  apply (mergeAll_perm before _ _).trans
  apply (foldl_push_perm before items.length _ ([], Rule.longStretch)).trans
  exact runs_perm before _ _ items

end FlowDesk.Sorting
