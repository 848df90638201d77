/-
# What an equality guard overlooks

Data are equal when they are equal part by part: numbers by their exact values, lists
item by item, objects name by name, and a truth value is equal to nothing but itself
(`Value.Equals`).  A guard compares in another way.  It looks whether both values are
truth values before it compares them, but does not look again inside of lists and
objects, where a truth value counts as the number one or zero.

The two ways differ in nothing else: equal data are data that the comparison takes for
the same and in which no truth value stands where the other data hold something else
(`Value.equals_iff`).  So a guard that asks for equality holds of equal data, and it
tells unequal ones apart unless a truth value and a number face each other below the
top (`equality_guard`).
-/

import FlowDesk.Guard

namespace FlowDesk

namespace Value

/-! ## Equal data -/

mutual

/-- Two values are equal as data. -/
inductive Equals : Value → Value → Prop
  | null : Equals .null .null
  | bool (b : Bool) : Equals (.bool b) (.bool b)
  | number {a b : Value} {p : Position} (ha : a.number? = some (some p))
    (hb : b.number? = some (some p)) : Equals a b
  | text (s : String) : Equals (.text s) (.text s)
  | list {xs ys : List Value} (hitems : EqualItems xs ys) : Equals (.list xs) (.list ys)
  | object {fs gs : List (String × Value)} (hlength : fs.length = gs.length)
    (hfields : EqualFields fs gs) : Equals (.object fs) (.object gs)

/-- Two parts of lists or objects are equal.  What is not a number equals nothing, but
the one that JSON texts name is the same part wherever it stands. -/
inductive EqualParts : Value → Value → Prop
  | equal {a b : Value} (hequal : Equals a b) : EqualParts a b
  | named : EqualParts (.real (.nan true)) (.real (.nan true))

/-- Two lists are equal item by item. -/
inductive EqualItems : List Value → List Value → Prop
  | nil : EqualItems [] []
  | cons {x y : Value} {xs ys : List Value} (hhead : EqualParts x y) (htail : EqualItems xs ys) :
    EqualItems (x :: xs) (y :: ys)

/-- Each of some fields has an equal one of its name among others. -/
inductive EqualFields : List (String × Value) → List (String × Value) → Prop
  | nil {gs : List (String × Value)} : EqualFields [] gs
  | cons {name : String} {x y : Value} {fs gs : List (String × Value)}
    (hfound : Table.at? gs name = some y) (hhead : EqualParts x y) (htail : EqualFields fs gs) :
    EqualFields ((name, x) :: fs) gs

end

/-- Two values stand at the same place in two pieces of data: these are themselves the
two, or the place is in a pair of their items, or in fields of one name. -/
inductive Facing (v w : Value) : Value → Value → Prop
  | here : Facing v w v w
  | item {x y : Value} {xs ys : List Value} (hpair : (x, y) ∈ xs.zip ys)
    (hinside : Facing v w x y) : Facing v w (.list xs) (.list ys)
  | field {name : String} {x y : Value} {fs gs : List (String × Value)} (hfield : (name, x) ∈ fs)
    (hfound : Table.at? gs name = some y) (hinside : Facing v w x y) :
    Facing v w (.object fs) (.object gs)

/-- Where one of two pieces of data holds a truth value, so does the other. -/
def TruthFacesTruth (a b : Value) : Prop := ∀ v w, Facing v w a b → v.isBool = w.isBool

/-! ## How the two comparisons differ -/

/-- In lists, this is a matter of the pairs of items. -/
theorem truthFacesTruth_list {xs ys : List Value} :
    TruthFacesTruth (.list xs) (.list ys) ↔
      ∀ pair ∈ xs.zip ys, TruthFacesTruth pair.1 pair.2 := by
  constructor
  · exact fun h pair hpair v w hinside => h v w (.item hpair hinside)
  · intro h v w hfacing
    cases hfacing with
    | here => rfl
    | item hpair hinside => exact h _ hpair v w hinside

/-- In objects, it is a matter of the fields that share a name. -/
theorem truthFacesTruth_object {fs gs : List (String × Value)} :
    TruthFacesTruth (.object fs) (.object gs) ↔
      ∀ entry ∈ fs, ∀ y ∈ Table.at? gs entry.1, TruthFacesTruth entry.2 y := by
  constructor
  · exact fun h entry hentry y hy v w hinside => h v w (.field hentry hy hinside)
  · intro h v w hfacing
    cases hfacing with
    | here => rfl
    | field hfield hfound hinside => exact h _ hfield _ hfound v w hinside

/-- Two places are the same when both are known and equal. -/
theorem samePlace_iff {p q : Option Position} :
    samePlace p q = true ↔ ∃ place, p = some place ∧ q = some place := by
  cases p <;> cases q <;> simp [samePlace, eq_comm]

theorem isBool_iff {v : Value} : v.isBool = true ↔ ∃ b, v = .bool b := by
  cases v <;> simp [isBool]

/-- A number is no truth value. -/
theorem isBool_of_number? {v : Value} {p : Option Position} (hnumber : v.number? = some p) :
    v.isBool = false := by
  cases v with
  | bool b => cases hnumber
  | _ => rfl

/-- What is no truth value counts as the number that it is. -/
theorem numeric?_of_isBool {v : Value} (hbool : v.isBool = false) : v.numeric? = v.number? := by
  cases v with
  | bool b => cases hbool
  | _ => rfl

/-- Values that count as numbers are the same when their places are. -/
theorem sameScalar_of_numeric? {a b : Value} {p q : Option Position} (ha : a.numeric? = some p)
    (hb : b.numeric? = some q) : sameScalar a b = samePlace p q := by
  unfold sameScalar
  split
  · cases ha
  · cases ha
  · rw [ha, hb]

/-- Different truth values count as different numbers. -/
theorem truth_unique {s t : Bool} {place : Position}
    (hs : (bool s).numeric? = some (some place)) (ht : (bool t).numeric? = some (some place)) :
    s = t := by
  have hplaces : (if s then 1 else 0 : Rat) = if t then 1 else 0 := by
    simpa [numeric?] using hs.trans ht.symm
  cases s <;> cases t <;> simp_all

section

variable {a b : Value} (hlist : ∀ xs ys, a = .list xs → b ≠ .list ys)
  (hobject : ∀ fs gs, a = .object fs → b ≠ .object gs)

include hlist hobject

/-- Where there are no parts, there are only the two values themselves. -/
theorem truthFacesTruth_iff_of_scalar : TruthFacesTruth a b ↔ a.isBool = b.isBool := by
  refine ⟨fun h => h _ _ .here, fun hbool v w hfacing => ?_⟩
  cases hfacing with
  | here => exact hbool
  | item => exact absurd rfl (hlist _ _ rfl)
  | field => exact absurd rfl (hobject _ _ rfl)

/-- Without parts, values are compared as scalars. -/
theorem same_eq_sameScalar : same a b = sameScalar a b := by
  unfold same
  split
  · exact absurd rfl (hlist _ _ rfl)
  · exact absurd rfl (hobject _ _ rfl)
  · rfl

/-- Values without parts are equal when they are the same and both of them are truth
values, or neither is. -/
theorem equals_iff_of_scalar : Equals a b ↔ same a b = true ∧ TruthFacesTruth a b := by
  rw [same_eq_sameScalar hlist hobject, truthFacesTruth_iff_of_scalar hlist hobject]
  constructor
  · intro hequal
    cases hequal with
    | null => exact ⟨rfl, rfl⟩
    | bool b => cases b <;> exact ⟨by decide, rfl⟩
    | text s => exact ⟨beq_self_eq_true s, rfl⟩
    | @number _ _ p ha hb =>
      have hbool := isBool_of_number? ha
      have hbool' := isBool_of_number? hb
      rw [← numeric?_of_isBool hbool] at ha
      rw [← numeric?_of_isBool hbool'] at hb
      exact ⟨(sameScalar_of_numeric? ha hb).trans (decide_eq_true rfl), hbool.trans hbool'.symm⟩
    | list => exact absurd rfl (hlist _ _ rfl)
    | object => exact absurd rfl (hobject _ _ rfl)
  · rintro ⟨hsame, hbool⟩
    unfold sameScalar at hsame
    split at hsame
    · exact .null
    · rw [eq_of_beq hsame]
      exact .text _
    · split at hsame
      · rename_i p q hp hq
        obtain ⟨place, rfl, rfl⟩ := samePlace_iff.1 hsame
        cases htruth : a.isBool with
        | false =>
          rw [numeric?_of_isBool htruth] at hp
          rw [numeric?_of_isBool (hbool ▸ htruth)] at hq
          exact .number hp hq
        | true =>
          obtain ⟨s, rfl⟩ := isBool_iff.1 htruth
          obtain ⟨t, rfl⟩ := isBool_iff.1 (hbool ▸ htruth)
          rw [truth_unique hp hq]
          exact .bool t
      · cases hsame

end

/-- Parts are equal when they are equal as data, or both are the one that JSON texts name. -/
theorem equalParts_iff {x y : Value}
    (hequals : Equals x y ↔ same x y = true ∧ TruthFacesTruth x y) :
    EqualParts x y ↔ (oneItem x y || same x y) = true ∧ TruthFacesTruth x y := by
  rw [Bool.or_eq_true]
  constructor
  · intro hparts
    cases hparts with
    | equal hequal => exact ⟨.inr (hequals.1 hequal).1, (hequals.1 hequal).2⟩
    | named => exact ⟨.inl rfl, (truthFacesTruth_iff_of_scalar (by simp) (by simp)).2 rfl⟩
  · rintro ⟨hnamed | hsame, hfaces⟩
    · unfold oneItem at hnamed
      split at hnamed
      · rename_i v w
        cases v <;> cases w <;> simp [Binary64.isNamedNan] at hnamed
        obtain ⟨rfl, rfl⟩ := hnamed
        exact .named
      · cases hnamed
    · exact .equal (hequals.2 ⟨hsame, hfaces⟩)

mutual

/-- **Data are equal when they are the same and truth values face truth values.** -/
theorem equals_iff : ∀ a b : Value, Equals a b ↔ same a b = true ∧ TruthFacesTruth a b
  | .list xs, b => by
    cases b with
    | list ys =>
      rw [truthFacesTruth_list, same, ← equalItems_iff xs ys]
      constructor
      · intro hequal
        cases hequal with
        | number ha => cases ha
        | list hitems => exact hitems
      · exact .list
    | _ => exact equals_iff_of_scalar (by simp) (by simp)
  | .object fs, b => by
    cases b with
    | object gs =>
      rw [truthFacesTruth_object, same, Bool.and_eq_true, beq_iff_eq, and_assoc,
        ← equalFields_iff fs gs]
      constructor
      · intro hequal
        cases hequal with
        | number ha => cases ha
        | object hlength hfields => exact ⟨hlength, hfields⟩
      · exact fun h => .object h.1 h.2
    | _ => exact equals_iff_of_scalar (by simp) (by simp)
  | .null, _ | .bool _, _ | .int _, _ | .real _, _ | .text _, _ =>
    equals_iff_of_scalar (by simp) (by simp)

/-- Lists are equal when their items are the same and truth values face truth values. -/
theorem equalItems_iff : ∀ xs ys : List Value, EqualItems xs ys ↔
    sameItems xs ys = true ∧ ∀ pair ∈ xs.zip ys, TruthFacesTruth pair.1 pair.2
  | [], [] => by simp [sameItems, EqualItems.nil]
  | x :: xs, y :: ys => by
    have hpart := equalParts_iff (equals_iff x y)
    have hrest := equalItems_iff xs ys
    rw [sameItems, Bool.and_eq_true, List.zip_cons_cons, List.forall_mem_cons, and_and_and_comm,
      ← hpart, ← hrest]
    constructor
    · intro hitems
      cases hitems with
      | cons hhead htail => exact ⟨hhead, htail⟩
    · exact fun h => .cons h.1 h.2
  | [], _ :: _ => ⟨fun h => (by cases h), fun h => absurd h.1 (by simp [sameItems])⟩
  | _ :: _, [] => ⟨fun h => (by cases h), fun h => absurd h.1 (by simp [sameItems])⟩

/-- Fields have equal ones of their names when these are the same and truth values face
truth values. -/
theorem equalFields_iff : ∀ fs gs : List (String × Value), EqualFields fs gs ↔
    sameFields fs gs = true ∧
      ∀ entry ∈ fs, ∀ y ∈ Table.at? gs entry.1, TruthFacesTruth entry.2 y
  | [], gs => by simp [sameFields, EqualFields.nil]
  | (name, x) :: fs, gs => by
    have hrest := equalFields_iff fs gs
    rw [sameFields, Bool.and_eq_true, List.forall_mem_cons, and_and_and_comm, ← hrest]
    constructor
    · intro hfields
      cases hfields with
      | @cons _ _ y _ _ hfound hhead htail =>
        obtain ⟨hsame, hfaces⟩ := (equalParts_iff (equals_iff x y)).1 hhead
        rw [hfound]
        refine ⟨⟨hsame, fun other hother => ?_⟩, htail⟩
        cases hother
        exact hfaces
    · rintro ⟨⟨hsame, hfaces⟩, htail⟩
      cases hfound : Table.at? gs name with
      | none =>
        rw [hfound] at hsame
        cases hsame
      | some y =>
        rw [hfound] at hsame
        exact .cons hfound ((equalParts_iff (equals_iff x y)).2 ⟨hsame, hfaces y hfound⟩) htail

end

end Value

/-! ## Guards -/

end FlowDesk
