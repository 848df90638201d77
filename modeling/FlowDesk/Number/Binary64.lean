/-
# Binary64 numbers

The fractional numbers that messages, client files and templates carry. A
finite number is a sign, a mantissa and a binary exponent in canonical shape,
so equal data means the same number with the same sign of zero. Rounding,
addition and comparison are computed over natural numbers and rationals: no
machine float takes part, and every result can be evaluated by the kernel.

The text forms are not here; see `Number.Shortest`.
-/

import FlowDesk.Number.Power

namespace FlowDesk

namespace Binary64

/-- The shape of a finite number `mantissa * 2 ^ exponent`: at most 53 binary
digits, all 53 of them used unless the exponent is already the least one. -/
def Canonical (mantissa : Nat) (exponent : Int) : Prop :=
  mantissa < twoTo 53 ∧ -1074 ≤ exponent ∧ exponent ≤ 971 ∧
    (twoTo 52 ≤ mantissa ∨ exponent = -1074)

instance (mantissa : Nat) (exponent : Int) : Decidable (Canonical mantissa exponent) := by
  unfold Canonical
  infer_instance

end Binary64

/-- A number in the binary64 format: not a number, an infinity, or a signed
finite number in canonical shape. What is not a number may be the one that JSON
texts name, which is one and the same wherever it is read; the others have
nothing in common. -/
inductive Binary64 where
  | nan (named : Bool)
  | infinite (negative : Bool)
  | finite (negative : Bool) (mantissa : Nat) (exponent : Int)
      (canonical : Binary64.Canonical mantissa exponent)
  deriving DecidableEq

namespace Binary64

instance : Inhabited Binary64 := ⟨.nan false⟩

/-- Zero with a sign. -/
def zero (negative : Bool) : Binary64 :=
  .finite negative 0 (-1074) (by decide)

/-- A quotient rounded to the nearest whole number, a half going to the even
neighbour. -/
def roundHalfEven (num den : Nat) : Nat :=
  let quotient := num / den
  let twice := 2 * (num % den)
  if den < twice ∨ (twice = den ∧ quotient % 2 = 1) then quotient + 1 else quotient

/-- Numerator and denominator of `num / den / 2 ^ exponent`. -/
def scaled (num den : Nat) (exponent : Int) : Nat × Nat :=
  (num * twoTo (-exponent).toNat, den * twoTo exponent.toNat)

/-- The exponent at which a positive quotient is rounded: the least one, not
below `-1074`, that leaves fewer than `2 ^ 53` units. -/
def roundingExponent (num den : Nat) : Int :=
  let low : Int := (num.log2 : Int) - den.log2 - 53
  let (n, d) := scaled num den low
  max (if n < d * twoTo 53 then low else low + 1) (-1074)

/-- The number with this mantissa and exponent, a full carry being moved into
the exponent; what is too large for the format becomes infinite. -/
def ofParts (negative : Bool) (mantissa : Nat) (exponent : Int) : Binary64 :=
  let carried := mantissa = twoTo 53
  let m := if carried then twoTo 52 else mantissa
  let e := if carried then exponent + 1 else exponent
  if h : Canonical m e then .finite negative m e h else .infinite negative

/-- The number nearest to `num / den`, a tie going to the even mantissa. -/
def roundRatio (negative : Bool) (num den : Nat) : Binary64 :=
  if num = 0 then zero negative
  else
    let exponent := roundingExponent num den
    let (n, d) := scaled num den exponent
    ofParts negative (roundHalfEven n d) exponent

/-- The number nearest to a whole number. -/
def ofInt (n : Int) : Binary64 :=
  roundRatio (decide (n < 0)) n.natAbs 1

/-- The number nearest to `digits * 10 ^ exponent`. Far outside the format's
range the answer is known from the size alone. -/
def ofDecimal (negative : Bool) (digits : Nat) (exponent : Int) : Binary64 :=
  if digits = 0 then zero negative
  else
    let size : Int := (Nat.toDigits 10 digits).length + exponent
    if 400 < size then .infinite negative
    else if size < -400 then zero negative
    else roundRatio negative (digits * tenTo exponent.toNat) (tenTo (-exponent).toNat)

/-- The signed mantissa scaled up by a power of two. -/
def signedMantissa (negative : Bool) (mantissa shift : Nat) : Int :=
  let magnitude : Int := (mantissa * twoTo shift : Nat)
  if negative then -magnitude else magnitude

/-- The exact value of a finite number. -/
def toRat? : Binary64 → Option Rat
  | .finite negative mantissa exponent _ =>
    some (mkRat (signedMantissa negative mantissa exponent.toNat) (twoTo (-exponent).toNat))
  | _ => none

/-- The whole number that this number is, if it is one. -/
def toInt? (x : Binary64) : Option Int :=
  match x.toRat? with
  | some q => if q.den = 1 then some q.num else none
  | none => none

/-- Whether the number is one of the two zeros. -/
def isZero : Binary64 → Bool
  | .finite _ mantissa _ _ => mantissa == 0
  | _ => false

/-- Whether the number is zero or below. -/
def notPositive : Binary64 → Bool
  | .nan _ => false
  | .infinite negative => negative
  | .finite negative mantissa _ _ => negative || mantissa == 0

/-- Addition: the exact sum of finite numbers is rounded once, and a sum of
zero is negative only when both terms are. -/
def add : Binary64 → Binary64 → Binary64
  | .nan _, _ => .nan false
  | _, .nan _ => .nan false
  | .infinite s, .infinite t => if s = t then .infinite s else .nan false
  | .infinite s, .finite .. => .infinite s
  | .finite .., .infinite t => .infinite t
  | .finite s m e _, .finite t n f _ =>
    let low := min e f
    let total := signedMantissa s m (e - low).toNat + signedMantissa t n (f - low).toNat
    if total = 0 then zero (s && t)
    else roundRatio (decide (total < 0)) (total.natAbs * twoTo low.toNat) (twoTo (-low).toNat)

instance : Add Binary64 := ⟨add⟩

/-- Whether the number is `nan`, which differs from every number. -/
def isNan : Binary64 → Bool
  | .nan _ => true
  | _ => false

/-- Whether the number is the `nan` that JSON texts name. -/
def isNamedNan : Binary64 → Bool
  | .nan named => named
  | _ => false

end Binary64

end FlowDesk
