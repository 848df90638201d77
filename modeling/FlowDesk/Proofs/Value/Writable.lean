/-
# Which values can be written

On the way through a value there is no obstacle exactly when its levels fit into the room
there is and every whole number in it is short enough (`Value.obstacle?_eq_none`).  So
whether a text can be made of a value depends on these two only, and not on what text it
is (`Value.written_eq_ok`).
-/

import FlowDesk.Value.Writable

namespace FlowDesk

/-! ## Steps that may meet an obstacle -/

section Steps

variable {ε α β : Type} {b : β}

/-- A step followed by another one comes to something when both do. -/
theorem Except.bind_eq_ok {x : Except ε α} {f : α → Except ε β} :
    (x >>= f) = .ok b ↔ ∃ a, x = .ok a ∧ f a = .ok b := by
  cases x <;> simp [bind, Except.bind]

/-- A step whose result is passed through a function comes to something when it does. -/
theorem Except.map_eq_ok {x : Except ε α} {f : α → β} :
    x.map f = .ok b ↔ ∃ a, x = .ok a ∧ f a = b := by
  cases x <;> simp [Except.map]

/-- What a step comes to, if it does. -/
theorem Except.toOption_eq_some {x : Except ε β} : x.toOption = some b ↔ x = .ok b := by
  cases x <;> simp [Except.toOption]

end Steps

/-! ## Obstacles in a value -/

namespace Value

variable {deep : Obstacle}

mutual

/-- There is no obstacle in a value that fits and has short numbers only. -/
theorem obstacle?_eq_none : ∀ {room : Nat} {v : Value},
    v.obstacle? deep room = none ↔ v.nesting ≤ room ∧ v.hasShortWholes = true
  | _, .int n => by
    simp [obstacle?, nesting, hasShortWholes, wholes]
  | room + 1, .list items => by
    rw [obstacle?, nesting, Nat.succ_le_succ_iff]
    exact itemsObstacle?_eq_none
  | room + 1, .object fields => by
    rw [obstacle?, nesting, Nat.succ_le_succ_iff]
    exact fieldsObstacle?_eq_none
  | 0, .list _ => by simp [obstacle?, nesting]
  | 0, .object _ => by simp [obstacle?, nesting]
  | _, .null => by simp [obstacle?, nesting, hasShortWholes, wholes]
  | _, .bool _ => by simp [obstacle?, nesting, hasShortWholes, wholes]
  | _, .real _ => by simp [obstacle?, nesting, hasShortWholes, wholes]
  | _, .text _ => by simp [obstacle?, nesting, hasShortWholes, wholes]

/-- There is no obstacle in items that fit and have short numbers only. -/
theorem itemsObstacle?_eq_none : ∀ {room : Nat} {items : List Value},
    itemsObstacle? deep room items = none ↔
      itemsNesting items ≤ room ∧ (itemsWholes items).all (fun n => !Numeral.isLong n) = true
  | _, [] => by simp [itemsObstacle?, itemsNesting, itemsWholes]
  | _, v :: rest => by
    rw [itemsObstacle?, Option.or_eq_none_iff, obstacle?_eq_none, itemsObstacle?_eq_none,
      itemsNesting, Nat.max_le, itemsWholes, List.all_append, Bool.and_eq_true, hasShortWholes]
    exact and_and_and_comm

/-- There is no obstacle in fields that fit and have short numbers only. -/
theorem fieldsObstacle?_eq_none : ∀ {room : Nat} {fields : List (String × Value)},
    fieldsObstacle? deep room fields = none ↔
      fieldsNesting fields ≤ room ∧ (fieldsWholes fields).all (fun n => !Numeral.isLong n) = true
  | _, [] => by simp [fieldsObstacle?, fieldsNesting, fieldsWholes]
  | _, (_, v) :: rest => by
    rw [fieldsObstacle?, Option.or_eq_none_iff, obstacle?_eq_none, fieldsObstacle?_eq_none,
      fieldsNesting, Nat.max_le, fieldsWholes, List.all_append, Bool.and_eq_true, hasShortWholes]
    exact and_and_and_comm

end

mutual

/-- In a value that fits there is no obstacle but long numbers. -/
theorem eq_longNumber_of_fits {met : Obstacle} : ∀ {room : Nat} {v : Value}, v.nesting ≤ room →
    v.obstacle? deep room = some met → met = .longNumber
  | _, .int n, _, hmet => by
    rw [obstacle?, Option.ite_none_right_eq_some, Option.some.injEq] at hmet
    exact hmet.2.symm
  | room + 1, .list items, hfits, hmet => by
    rw [obstacle?] at hmet
    exact eq_longNumber_of_itemsFit (Nat.le_of_succ_le_succ hfits) hmet
  | room + 1, .object fields, hfits, hmet => by
    rw [obstacle?] at hmet
    exact eq_longNumber_of_fieldsFit (Nat.le_of_succ_le_succ hfits) hmet
  | 0, .list _, hfits, _ => absurd hfits (Nat.not_succ_le_zero _)
  | 0, .object _, hfits, _ => absurd hfits (Nat.not_succ_le_zero _)
  | _, .null, _, hmet => by simp [obstacle?] at hmet
  | _, .bool _, _, hmet => by simp [obstacle?] at hmet
  | _, .real _, _, hmet => by simp [obstacle?] at hmet
  | _, .text _, _, hmet => by simp [obstacle?] at hmet

/-- In items that fit there is no obstacle but long numbers. -/
theorem eq_longNumber_of_itemsFit {met : Obstacle} : ∀ {room : Nat} {items : List Value},
    itemsNesting items ≤ room → itemsObstacle? deep room items = some met → met = .longNumber
  | _, [], _, hmet => by cases hmet
  | _, v :: rest, hfits, hmet => by
    rw [itemsNesting, Nat.max_le] at hfits
    rcases Option.or_eq_some_iff.1 hmet with hfirst | ⟨-, hrest⟩
    · exact eq_longNumber_of_fits hfits.1 hfirst
    · exact eq_longNumber_of_itemsFit hfits.2 hrest

/-- In fields that fit there is no obstacle but long numbers. -/
theorem eq_longNumber_of_fieldsFit {met : Obstacle} :
    ∀ {room : Nat} {fields : List (String × Value)}, fieldsNesting fields ≤ room →
      fieldsObstacle? deep room fields = some met → met = .longNumber
  | _, [], _, hmet => by cases hmet
  | _, (_, v) :: rest, hfits, hmet => by
    rw [fieldsNesting, Nat.max_le] at hfits
    rcases Option.or_eq_some_iff.1 hmet with hfirst | ⟨-, hrest⟩
    · exact eq_longNumber_of_fits hfits.1 hfirst
    · exact eq_longNumber_of_fieldsFit hfits.2 hrest

end

variable {v : Value} {text made : String}

/-- A text is made of exactly the values that can be written. -/
theorem written_eq_ok :
    v.written deep text = .ok made ↔ v.isWritable = true ∧ text = made := by
  rw [written, isWritable, Bool.and_eq_true, decide_eq_true_iff, ← @obstacle?_eq_none deep]
  cases v.obstacle? deep mostWrittenLevels <;> simp

/-- The text of a whole number is made unless it is too long. -/
theorem written_int (n : Int) : (int n).written deep text =
    if Numeral.isLong n then .error .longNumber else .ok text := by
  rw [written, obstacle?]
  cases Numeral.isLong n <;> rfl

/-- A whole number can be written exactly when it is not too long. -/
theorem isWritable_int {n : Int} : (int n).isWritable = !Numeral.isLong n := by
  simp [isWritable, hasShortWholes, nesting, wholes]

end Value

end FlowDesk
