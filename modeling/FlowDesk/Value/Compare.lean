/-
# Comparing values

Equality and order of values. Numbers are compared by their exact values,
however large, whether whole or fractional; inside comparisons a truth value
is the number one or zero, except at the top of a strict comparison. Objects
are equal when they have the same fields in any order. What is not a number
equals nothing; but inside lists and objects the one that JSON texts name is
the same item wherever it stands.
-/

import FlowDesk.Value.Basic

namespace FlowDesk

/-- A place on the extended line of rationals. -/
inductive Position where
  | bottom
  | rational (q : Rat)
  | top
  deriving DecidableEq

namespace Position

/-- The strict order of the line. -/
def lt : Position → Position → Bool
  | .bottom, .bottom => false
  | .bottom, _ => true
  | .rational p, .rational q => decide (p < q)
  | .rational _, .top => true
  | .rational _, .bottom => false
  | .top, _ => false

end Position

/-- The place of a number; `nan` has none. -/
def Binary64.position? : Binary64 → Option Position
  | .nan _ => none
  | .infinite true => some .bottom
  | .infinite false => some .top
  | x@(.finite ..) => x.toRat?.map .rational

namespace Value

/-- The place of a number that is not a truth value. -/
def number? : Value → Option (Option Position)
  | .int n => some (some (.rational (n : Rat)))
  | .real x => some x.position?
  | _ => none

/-- The place of a number, truth values counting as one and zero. -/
def numeric? : Value → Option (Option Position)
  | .bool b => some (some (.rational (if b then 1 else 0)))
  | v => v.number?

/-- Whether two places are known and equal. -/
def samePlace : Option Position → Option Position → Bool
  | some p, some q => decide (p = q)
  | _, _ => false

/-- Equality of values that are neither lists nor objects. -/
def sameScalar (a b : Value) : Bool :=
  match a, b with
  | .null, .null => true
  | .text s, .text t => s == t
  | a, b =>
    match a.numeric?, b.numeric? with
    | some p, some q => samePlace p q
    | _, _ => false

/-- Whether two values are the same item without being equal: the `nan` that
JSON texts name. -/
def oneItem : Value → Value → Bool
  | .real x, .real y => x.isNamedNan && y.isNamedNan
  | _, _ => false

mutual

/-- Equality of values. -/
def same : Value → Value → Bool
  | .list xs, .list ys => sameItems xs ys
  | .object fs, .object gs => fs.length == gs.length && sameFields fs gs
  | a, b => sameScalar a b

/-- Equality of lists, item by item. -/
def sameItems : List Value → List Value → Bool
  | [], [] => true
  | x :: xs, y :: ys => (oneItem x y || same x y) && sameItems xs ys
  | _, _ => false

/-- Whether every one of some fields has an equal counterpart among others. -/
def sameFields : List (String × Value) → List (String × Value) → Bool
  | [], _ => true
  | (name, value) :: rest, others =>
    (match Table.at? others name with
      | some other => oneItem value other || same value other
      | none => false) && sameFields rest others

end

/-- Whether a value is a truth value. -/
def isBool : Value → Bool
  | .bool _ => true
  | _ => false

/-- Equality in which a truth value at the top is no number. -/
def sameStrict (a b : Value) : Bool :=
  a.isBool == b.isBool && same a b

/-- Whether both values are numbers and the first is the smaller one. -/
def less (a b : Value) : Bool :=
  match a.number?, b.number? with
  | some (some p), some (some q) => p.lt q
  | _, _ => false

end Value

end FlowDesk
