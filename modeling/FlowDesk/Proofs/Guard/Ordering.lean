/-
# Guards that order numbers

Whole numbers may be of any size, and of the fractional ones most cannot be told from
their neighbours when a large whole number is rounded to them.  Guards do not round.  A
number stands for a point of the extended real line (`Value.quantity?`), and what a guard
computes agrees with the order of this line, so it is less, greater or equal, and exactly
one of them (`ordering_guards`).

Truth values are no numbers here, and `nan` stands for no point: of these nothing is less
or greater.  A path that leads nowhere is another matter.  It fails every guard, also the
one that asks for a difference, and this is how it can be told from all other paths.
-/

import FlowDesk.Proofs.Guard.Equality
import FlowDesk.Proofs.Number.Rounding
import FlowDesk.Proofs.Value.Path
import Mathlib.Data.EReal.Basic

namespace FlowDesk

/-! ## The quantities that numbers stand for -/

/-- The point of the extended real line at a place. -/
noncomputable def Position.point : Position → EReal
  | .bottom => ⊥
  | .rational q => ((q : ℝ) : EReal)
  | .top => ⊤

/-- The point that a number stands for; `nan` stands for none. -/
noncomputable def Binary64.quantity? : Binary64 → Option EReal
  | .nan _ => none
  | .infinite negative => some (if negative then ⊥ else ⊤)
  | .finite negative mantissa exponent _ =>
    some (((if negative then -1 else 1) * mantissa * 2 ^ exponent : ℝ) : EReal)

/-- The point that a value stands for.  Only whole and fractional numbers stand for one. -/
noncomputable def Value.quantity? : Value → Option EReal
  | .int n => some ((n : ℝ) : EReal)
  | .real x => x.quantity?
  | _ => none

namespace Position

/-- The order of places is that of their points. -/
theorem lt_iff {p q : Position} : p.lt q = true ↔ p.point < q.point := by
  cases p <;> cases q <;> simp [lt, point]

/-- Different places have different points. -/
theorem point_injective : Function.Injective point := by
  intro p q hpoints
  cases p <;> cases q <;> simp_all [point]

end Position

namespace Binary64

/-- A finite number is a signed mantissa times a power of two. -/
theorem mkRat_signedMantissa (negative : Bool) (mantissa : Nat) (exponent : Int) :
    mkRat (signedMantissa negative mantissa exponent.toNat) (twoTo (-exponent).toNat) =
      (if negative then -1 else 1) * mantissa * (2 : ℚ) ^ exponent := by
  rw [Rat.mkRat_eq_div, ← zpow_toNat_div 2 exponent, signedMantissa]
  cases negative <;> simp <;> ring

/-- The place of a number is where its point is. -/
theorem map_point_position? (x : Binary64) : x.position?.map Position.point = x.quantity? := by
  cases x with
  | nan named => rfl
  | infinite negative => cases negative <;> rfl
  | finite negative mantissa exponent hcanonical =>
    simp only [position?, toRat?, mkRat_signedMantissa, Option.map_some, Position.point, quantity?]
    cases negative <;> simp

end Binary64

namespace Value

variable {a b : Value} {x y : EReal}

/-- What stands for a point is a number with a place, and this place is where the point is. -/
theorem quantity?_eq_some_iff :
    a.quantity? = some x ↔ ∃ p, a.number? = some (some p) ∧ p.point = x := by
  cases a with
  | int n => simp [quantity?, number?, Position.point]
  | real n =>
    rw [quantity?, ← Binary64.map_point_position?, Option.map_eq_some_iff]
    simp [number?]
  | _ => simp [quantity?, number?]

/-- Of numbers the smaller one is the one that stands for the lesser point. -/
theorem less_iff (ha : a.quantity? = some x) (hb : b.quantity? = some y) :
    a.less b = true ↔ x < y := by
  obtain ⟨p, hp, rfl⟩ := quantity?_eq_some_iff.1 ha
  obtain ⟨q, hq, rfl⟩ := quantity?_eq_some_iff.1 hb
  rw [less, hp, hq]
  exact Position.lt_iff

/-- What stands for no point is neither smaller nor greater than anything. -/
theorem less_of_quantity?_eq_none (hnone : a.quantity? = none ∨ b.quantity? = none) :
    a.less b = false := by
  rw [less]
  split
  · rename_i p q hp hq
    rw [quantity?_eq_some_iff.2 ⟨p, hp, rfl⟩, quantity?_eq_some_iff.2 ⟨q, hq, rfl⟩] at hnone
    rcases hnone with hnone | hnone <;> cases hnone
  · rfl

/-- Numbers are equal when they stand for the same point. -/
theorem sameStrict_iff (ha : a.quantity? = some x) (hb : b.quantity? = some y) :
    a.sameStrict b = true ↔ x = y := by
  obtain ⟨p, hp, rfl⟩ := quantity?_eq_some_iff.1 ha
  obtain ⟨q, hq, rfl⟩ := quantity?_eq_some_iff.1 hb
  have hlist : ∀ xs ys, a = .list xs → b ≠ .list ys := by
    rintro xs ys rfl
    cases hp
  have hobject : ∀ fs gs, a = .object fs → b ≠ .object gs := by
    rintro fs gs rfl
    cases hp
  have htruth := isBool_of_number? hp
  have htruth' := isBool_of_number? hq
  rw [← numeric?_of_isBool htruth] at hp
  rw [← numeric?_of_isBool htruth'] at hq
  rw [sameStrict, htruth, htruth', same_eq_sameScalar hlist hobject,
    sameScalar_of_numeric? hp hq, Position.point_injective.eq_iff]
  simp [samePlace]

end Value

/-! ## Guards -/

/-- Of three operators that follow the order of two points, exactly one holds. -/
theorem Operator.existsUnique_of_order {Holds : Operator → Prop} {x y : EReal}
    (hgreater : Holds .greater ↔ y < x) (hsmaller : Holds .smaller ↔ x < y)
    (hequal : Holds .equal ↔ x = y) :
    ∃! operator, operator ∈ [.greater, .smaller, .equal] ∧ Holds operator := by
  have hcases : ∀ operator ∈ [.greater, .smaller, .equal], Holds operator →
      operator = .greater ∧ y < x ∨ operator = .smaller ∧ x < y ∨ operator = .equal ∧ x = y := by
    simp [hgreater, hsmaller, hequal]
  rcases lt_trichotomy x y with hlt | heq | hgt
  · refine ⟨.smaller, ⟨by simp, hsmaller.2 hlt⟩, fun operator ⟨hmem, hholds⟩ => ?_⟩
    rcases hcases operator hmem hholds with ⟨-, hgt⟩ | ⟨hop, -⟩ | ⟨-, heq⟩
    · exact absurd hgt hlt.not_gt
    · exact hop
    · exact absurd heq hlt.ne
  · refine ⟨.equal, ⟨by simp, hequal.2 heq⟩, fun operator ⟨hmem, hholds⟩ => ?_⟩
    rcases hcases operator hmem hholds with ⟨-, hgt⟩ | ⟨-, hlt⟩ | ⟨hop, -⟩
    · exact absurd heq hgt.ne'
    · exact absurd heq hlt.ne
    · exact hop
  · refine ⟨.greater, ⟨by simp, hgreater.2 hgt⟩, fun operator ⟨hmem, hholds⟩ => ?_⟩
    rcases hcases operator hmem hholds with ⟨hop, -⟩ | ⟨-, hlt⟩ | ⟨-, heq⟩
    · exact hop
    · exact absurd hlt hgt.not_gt
    · exact absurd heq hgt.ne'

/-- A guard on a path that leads to a value asks about this value. -/
theorem Guard.holds_of_follow? {context : Context} {path : String} {found : Value}
    (hfound : context.follow? path = some found) (operator : Operator) (expected : Value) :
    (Guard.mk path operator expected).holds context = operator.holds found expected := by
  simp only [holds, hfound]

/-- A path fails every guard exactly when it leads nowhere: elsewhere a value is equal to the
expected one or different from it. -/
theorem Guard.forall_fails_iff (context : Context) (path : String) (expected : Value) :
    (∀ operator, (Guard.mk path operator expected).holds context = .ok false) ↔
      context.value.LeadsNowhere (Path.segments path) := by
  rw [← Value.follow?_eq_none_iff, ← Context.follow?]
  constructor
  · intro hall
    cases hfound : context.follow? path with
    | none => rfl
    | some found =>
      have hequal := hall .equal
      have hdifferent := hall .different
      rw [holds_of_follow? hfound] at hequal hdifferent
      simp only [Operator.holds, Except.ok.injEq, Bool.not_eq_false'] at hequal hdifferent
      cases hequal.symm.trans hdifferent
  · intro hnone operator
    simp only [holds, hnone]

/-- **Guards order numbers exactly, and fail on paths that lead nowhere.**  Let the path of a
guard lead to a number, and another one be expected.  The guard asks for greater, smaller or
equal; it holds exactly when the points that the two numbers stand for are so related, and
of the three one holds and no other.  When one of the two values stands for no point, it is
neither greater nor smaller.  All guards fail on a path exactly when one of its segments
comes to a dead end. -/
theorem ordering_guards (context : Context) (path : String) (expected : Value) :
    let Holds (operator : Operator) : Prop :=
      (Guard.mk path operator expected).holds context = .ok true
    let Fails (operator : Operator) : Prop :=
      (Guard.mk path operator expected).holds context = .ok false
    (∀ found x y, context.follow? path = some found → found.quantity? = some x →
      expected.quantity? = some y →
        (Holds .greater ↔ y < x) ∧ (Holds .smaller ↔ x < y) ∧ (Holds .equal ↔ x = y) ∧
          (∀ operator ∈ [.greater, .smaller, .equal], Holds operator ∨ Fails operator) ∧
          ∃! operator, operator ∈ [.greater, .smaller, .equal] ∧ Holds operator) ∧
    (∀ found, context.follow? path = some found →
      found.quantity? = none ∨ expected.quantity? = none → Fails .greater ∧ Fails .smaller) ∧
    ((∀ operator, Fails operator) ↔ context.value.LeadsNowhere (Path.segments path)) := by
  intro Holds Fails
  refine ⟨fun found x y hfound hx hy => ?_, fun found hfound hnone => ?_,
    Guard.forall_fails_iff context path expected⟩
  · have hanswer : ∀ operator answer, operator.holds found expected = .ok answer →
        (Holds operator ↔ answer = true) ∧ (Holds operator ∨ Fails operator) := by
      intro operator answer hanswer
      have hholds := (Guard.holds_of_follow? hfound operator expected).trans hanswer
      refine ⟨by rw [show Holds operator ↔ _ = _ from Iff.rfl, hholds, Except.ok.injEq], ?_⟩
      cases answer with
      | true => exact .inl hholds
      | false => exact .inr hholds
    obtain ⟨hmore, hgreaterAnswer⟩ := hanswer .greater _ rfl
    obtain ⟨hless, hsmallerAnswer⟩ := hanswer .smaller _ rfl
    obtain ⟨hsame, hequalAnswer⟩ := hanswer .equal _ rfl
    have hgreater : Holds .greater ↔ y < x := hmore.trans (Value.less_iff hy hx)
    have hsmaller : Holds .smaller ↔ x < y := hless.trans (Value.less_iff hx hy)
    have hequal : Holds .equal ↔ x = y := hsame.trans (Value.sameStrict_iff hx hy)
    exact ⟨hgreater, hsmaller, hequal, by simp [hgreaterAnswer, hsmallerAnswer, hequalAnswer],
      Operator.existsUnique_of_order hgreater hsmaller hequal⟩
  · have hgreater := Guard.holds_of_follow? hfound .greater expected
    have hsmaller := Guard.holds_of_follow? hfound .smaller expected
    rw [Operator.holds, Value.less_of_quantity?_eq_none hnone.symm] at hgreater
    rw [Operator.holds, Value.less_of_quantity?_eq_none hnone] at hsmaller
    exact ⟨hgreater, hsmaller⟩

/-- The whole number after `2 ^ 53` is greater than `2 ^ 53` as a fractional number, to which
it would be rounded.  There is nothing at all below it. -/
theorem ordering_guards_beyond_rounding :
    let context : Context :=
      ⟨"", .number 1, "", "", "", none, none, [("count", .int 9007199254740993)]⟩
    let rounded : Value := .real (.finite false 4503599627370496 1 (by decide))
    context.follow? "variables.count" = some (.int 9007199254740993) ∧
      (Guard.mk "variables.count" .greater rounded).holds context = .ok true ∧
      ¬ (Guard.mk "variables.count" .equal rounded).holds context = .ok true ∧
      (Guard.mk "variables.count.digits" .different rounded).holds context = .ok false := by
  intro context rounded
  have hfound : context.follow? "variables.count" = some (.int 9007199254740993) := rfl
  obtain ⟨hgreater, -, hequal, -⟩ :=
    (ordering_guards context "variables.count" rounded).1 _ _ _ hfound rfl rfl
  refine ⟨hfound, hgreater.2 ?_, fun hholds => ?_, ?_⟩
  · norm_num [EReal.coe_lt_coe_iff]
  · have hsame := hequal.1 hholds
    norm_num at hsame
  · refine (ordering_guards context "variables.count.digits" rounded).2.2.2 ?_ .different
    exact .later rfl (.later rfl (.here (.int _)))

end FlowDesk
