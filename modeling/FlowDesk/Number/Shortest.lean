/-
# Decimal texts of binary64 numbers

A finite number is written with the fewest digits that read back to it; among
the decimals of that length the nearest one is taken. The digits are found in
exact arithmetic: for one, two, … seventeen digits the two neighbours of the
number on that decimal grid are tested against the interval of reals that
round to it. Where the point stands, and when an exponent is written, is a
`DecimalLayout`.
-/

import FlowDesk.Number.Binary64

namespace FlowDesk

/-- The decimal `0.d₁d₂… * 10 ^ point`, without trailing zeros. -/
structure Decimal where
  digits : List Char
  point : Int
  deriving DecidableEq

/-- How a decimal is laid out: the decimal exponents that are written
positionally, and whether a whole number keeps a point. -/
structure DecimalLayout where
  leastPositional : Int
  firstExponential : Int
  wholeMark : List Char

/-- Plain numbers: positional from `0.0001` up to, but not including, `1e+16`;
a whole number ends in `.0`. -/
def DecimalLayout.plain : DecimalLayout := ⟨-4, 16, ['.', '0']⟩

/-- Compact numbers with at most six digits: positional from `0.0001` up to,
but not including, `1e+06`, and without a mark on whole numbers. -/
def DecimalLayout.compact : DecimalLayout := ⟨-4, 6, []⟩

namespace Decimal

/-- The digits of a whole number with a unit of `10 ^ unit`. -/
def ofUnits (count : Nat) (unit : Int) : Decimal :=
  let digits := Nat.toDigits 10 count
  ⟨(digits.reverse.dropWhile (· = '0')).reverse, digits.length + unit⟩

/-- The exponent with its sign and at least two digits. -/
def exponentText (exponent : Int) : List Char :=
  let digits := Nat.toDigits 10 exponent.natAbs
  (if exponent < 0 then '-' else '+') :: (if digits.length < 2 then '0' :: digits else digits)

/-- The text of a positive decimal under a layout. -/
def text (layout : DecimalLayout) (d : Decimal) : List Char :=
  let exponent := d.point - 1
  if layout.leastPositional ≤ exponent ∧ exponent < layout.firstExponential then
    if d.point ≤ 0 then
      ['0', '.'] ++ List.replicate (-d.point).toNat '0' ++ d.digits
    else
      let whole := d.point.toNat
      if d.digits.length ≤ whole then
        d.digits ++ List.replicate (whole - d.digits.length) '0' ++ layout.wholeMark
      else d.digits.take whole ++ '.' :: d.digits.drop whole
  else
    let fraction := d.digits.drop 1
    d.digits.take 1 ++ (if fraction.isEmpty then [] else '.' :: fraction) ++
      'e' :: exponentText exponent

end Decimal

namespace Binary64

/-- The power of a base as an exact fraction. -/
def power (base : Nat) (exponent : Int) : Rat :=
  mkRat (Nat.pow base exponent.toNat : Nat) (Nat.pow base (-exponent).toNat)

/-- The reals that round to one positive number. -/
structure Neighbourhood where
  value : Rat
  low : Rat
  high : Rat
  closed : Bool

/-- The rounding interval of `mantissa * 2 ^ exponent`: half a unit to either
side, a quarter below a power of two, with its ends when the mantissa is even. -/
def neighbourhood (mantissa : Nat) (exponent : Int) : Neighbourhood :=
  let quarter := power 2 (exponent - 2)
  let below : Nat := if mantissa = twoTo 52 ∧ -1074 < exponent then 1 else 2
  { value := ((4 * mantissa : Nat) : Rat) * quarter
    low := ((4 * mantissa - below : Nat) : Rat) * quarter
    high := ((4 * mantissa + 2 : Nat) : Rat) * quarter
    closed := mantissa % 2 = 0 }

/-- Whether a real rounds to the number. -/
def Neighbourhood.contains (near : Neighbourhood) (q : Rat) : Bool :=
  if near.closed then decide (near.low ≤ q) && decide (q ≤ near.high)
  else decide (near.low < q) && decide (q < near.high)

/-- The nearest multiple of `10 ^ unit` that rounds to the number, if one of
its two neighbours on that grid does; an exact tie goes to the even multiple. -/
def Neighbourhood.onGrid (near : Neighbourhood) (unit : Int) : Option Nat :=
  let scale := power 10 unit
  let count := (near.value / scale).floor.toNat
  let lower := (count : Rat) * scale
  let upper := ((count + 1 : Nat) : Rat) * scale
  match near.contains lower, near.contains upper with
  | false, false => none
  | true, false => some count
  | false, true => some (count + 1)
  | true, true =>
    let toLower := near.value - lower
    let toUpper := upper - near.value
    if toLower < toUpper then some count
    else if toUpper < toLower then some (count + 1)
    else if count % 2 = 0 then some count
    else some (count + 1)

/-- The number of digits before the point of a positive quotient; zero or
negative when the quotient is below one tenth. -/
def decimalSize (num den : Nat) : Int :=
  let guess : Int := ((Nat.toDigits 10 num).length : Int) - (Nat.toDigits 10 den).length
  if num * tenTo (-guess).toNat < den * tenTo guess.toNat then guess else guess + 1

/-- The shortest decimal that reads back to `mantissa * 2 ^ exponent`. -/
def shortest (mantissa : Nat) (exponent : Int) : Decimal :=
  let near := neighbourhood mantissa exponent
  let size := decimalSize (mantissa * twoTo exponent.toNat) (twoTo (-exponent).toNat)
  let found := (List.range 17).findSome? fun shorter =>
    let unit := size - (shorter + 1 : Nat)
    (near.onGrid unit).map fun count => Decimal.ofUnits count unit
  found.getD ⟨['0'], 1⟩

/-- The decimal with six digits that is nearest to `mantissa * 2 ^ exponent`. -/
def sixDigits (mantissa : Nat) (exponent : Int) : Decimal :=
  let num := mantissa * twoTo exponent.toNat
  let den := twoTo (-exponent).toNat
  let unit := decimalSize num den - 6
  Decimal.ofUnits (roundHalfEven (num * tenTo (-unit).toNat) (den * tenTo unit.toNat)) unit

/-- The text of a number, given the digits of positive ones and a layout. -/
def textWith (digits : Nat → Int → Decimal) (layout : DecimalLayout) : Binary64 → String
  | .nan _ => "nan"
  | .infinite false => "inf"
  | .infinite true => "-inf"
  | .finite negative mantissa exponent _ =>
    let body := if mantissa = 0 then '0' :: layout.wholeMark
      else (digits mantissa exponent).text layout
    String.ofList (if negative then '-' :: body else body)

/-- The plain text of a number: the fewest digits that read back to it. -/
def text : Binary64 → String := textWith shortest .plain

/-- The compact text of a number: at most six digits. -/
def compactText : Binary64 → String := textWith sixDigits .compact

end Binary64

end FlowDesk
