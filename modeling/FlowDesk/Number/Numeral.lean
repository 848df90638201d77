/-
# Numerals

Reading whole and fractional numbers from text. Two notations occur. A
*numeral* is what a path segment or a caller id may be: surrounding blanks,
a sign, and digits of any script with single low lines between them. A
*decimal numeral* adds a fraction, an exponent and the names of the numbers
that have no digits.
-/

import FlowDesk.Number.Binary64
import FlowDesk.Text.Blank
import FlowDesk.Text.Digit

namespace FlowDesk

namespace Numeral

/-- Blanks that may surround a numeral: the control characters from tab to
carriage return, the space, and every blank outside ASCII. -/
def isPadding (c : Char) : Bool :=
  c = ' ' || ('\t' ≤ c && c ≤ '\r') || (127 < c.toNat && Text.isBlank c)

/-- The text without surrounding padding. -/
def unpad (cs : List Char) : List Char :=
  Text.trimBy isPadding cs

/-- A leading sign, if any, and the rest. -/
def sign : List Char → Bool × List Char
  | '-' :: rest => (true, rest)
  | '+' :: rest => (false, rest)
  | rest => (false, rest)

/-- The value of a run of digits in which single low lines may stand between
two digits; `value?` reads one character at a time. -/
def digitsFrom (value? : Char → Option Nat) (total : Nat) : List Char → Option Nat
  | [] => some total
  | '_' :: c :: rest => (value? c).bind fun d => digitsFrom value? (10 * total + d) rest
  | c :: rest => (value? c).bind fun d => digitsFrom value? (10 * total + d) rest

/-- The value of a non-empty run of digits that starts with a digit. -/
def digits? (value? : Char → Option Nat) : List Char → Option Nat
  | [] => none
  | c :: rest => (value? c).bind fun d => digitsFrom value? d rest

/-- Give a magnitude its sign. -/
def signed (negative : Bool) (magnitude : Nat) : Int :=
  if negative then -(magnitude : Int) else magnitude

/-- The greatest number of digits of a whole number, leading zeros included. -/
def mostDigits : Nat := 4300

/-- Whether a whole number has more digits than are read or written. -/
def isLong (n : Int) : Bool :=
  decide (mostDigits < (Nat.toDigits 10 n.natAbs).length)

/-- Read a whole number in the digits of any script. -/
def integer? (s : String) : Option Int :=
  let (negative, body) := sign (unpad s.toList)
  if mostDigits < body.countP (· ≠ '_') then none
  else (digits? Text.digitValue? body).map (signed negative)

/-- Whether every low line stands between two digits. -/
def lowLinesBetweenDigits : Bool → List Char → Bool
  | _, [] => true
  | afterDigit, '_' :: rest =>
    afterDigit && (match rest with | c :: _ => c.isDigit | [] => false) &&
      lowLinesBetweenDigits false rest
  | _, c :: rest => lowLinesBetweenDigits c.isDigit rest

/-- The exponent part of a decimal numeral: nothing, or a mark with digits. -/
def exponent? : List Char → Option Int
  | [] => some 0
  | c :: rest =>
    if c = 'e' || c = 'E' then
      let (negative, body) := sign rest
      if body.all Char.isDigit then (digits? Text.asciiDigit? body).map (signed negative) else none
    else none

/-- The unsigned part of a decimal numeral in ASCII digits without low lines. -/
def unsignedDecimal? (negative : Bool) (body : List Char) : Option Binary64 :=
  let whole := body.takeWhile Char.isDigit
  let afterWhole := body.dropWhile Char.isDigit
  let (fraction, tail) := match afterWhole with
    | '.' :: rest => (rest.takeWhile Char.isDigit, rest.dropWhile Char.isDigit)
    | rest => ([], rest)
  let digits := whole ++ fraction
  (digits? Text.asciiDigit? digits).bind fun count =>
    (exponent? tail).map fun exponent =>
      Binary64.ofDecimal negative count (exponent - fraction.length)

/-- The ASCII form of a digit of any script; other characters stay. -/
def asciiForm (c : Char) : Char :=
  if c.toNat < 128 then c
  else match Text.digitValue? c with
    | some d => Char.ofNat (48 + d)
    | none => c

/-- The lower-case form of an ASCII text. -/
def lowerAscii (cs : List Char) : String := String.ofList (cs.map Char.toLower)

/-- Read a decimal numeral in ASCII digits without low lines; `inf`, `infinity`
or `nan` in any case will do. -/
def plainDecimal? (cs : List Char) : Option Binary64 :=
  let (negative, body) := sign cs
  let name := lowerAscii body
  if name = "inf" || name = "infinity" then some (.infinite negative)
  else if name = "nan" then some (.nan false)
  else unsignedDecimal? negative body

/-- Read a decimal numeral in the digits of any script. -/
def decimal? (s : String) : Option Binary64 :=
  let cs := (unpad s.toList).map asciiForm
  if lowLinesBetweenDigits false cs then plainDecimal? (cs.filter (· ≠ '_')) else none

end Numeral

end FlowDesk
