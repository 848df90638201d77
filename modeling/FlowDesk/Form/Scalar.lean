/-
# The contents of form fields

What a field may hold, and what is accepted in its place: a whole number may
come as a truth value, a fractional number without a fraction, or a text; a
truth value may come as one of a few words.
-/

import FlowDesk.Form.Basic
import FlowDesk.Number.Numeral
import FlowDesk.Text.Case

namespace FlowDesk.Checked

/-- A text; nothing else is accepted. -/
def text : Value → Checked String
  | .text s => .valid s
  | v => mismatch .notText v

/-- A value of any kind. -/
def anything (v : Value) : Checked Value := .valid v

/-- An object with any fields. -/
def fields : Value → Checked Fields
  | .object fields => .valid fields
  | v => mismatch .notObject v

/-- A list of texts. -/
def texts : Value → Checked (List String)
  | .list vs => items text 0 vs
  | v => mismatch .notList v

/-- Null, or what another check accepts. -/
def nullable {α : Type} (check : Value → Checked α) : Value → Checked (Option α)
  | .null => .valid none
  | v => (check v).map some

/-- Blanks that may surround a number in a text: all but the separators among
the control characters. -/
def isMargin (c : Char) : Bool :=
  Text.isBlank c && !(0x1C ≤ c.toNat && c.toNat ≤ 0x1F)

/-- Drop a fraction that consists of zeros only. -/
def withoutZeroFraction (cs : List Char) : List Char :=
  match cs.dropWhile (· ≠ '.') with
  | '.' :: rest =>
    if !rest.isEmpty && rest.all (· = '0') then cs.takeWhile (· ≠ '.') else cs
  | _ => cs

/-- Drop low lines, unless one is the first or last character or two stand side
by side. -/
def withoutLowLines (cs : List Char) : List Char :=
  if cs.head? = some '_' || cs.getLast? = some '_' || Text.occursIn ['_', '_'] cs then cs
  else cs.filter (· ≠ '_')

/-- Drop zeros and low lines up to a digit that counts, a sign, or a point,
before which the character `last` stays. When nothing else follows, `last` is
all there is. -/
def dropZeros (last : Char) : List Char → Option (List Char)
  | [] => some [last]
  | c :: rest =>
    if c = '0' || c = '_' then dropZeros c rest
    else if c = '.' then some (last :: c :: rest)
    else if c = '-' || c.isDigit then some (c :: rest)
    else none

/-- Drop the zeros with which a numeral begins. -/
def withoutLeadingZeros : List Char → Option (List Char)
  | [] => none
  | c :: rest =>
    if c = '0' then dropZeros c rest else if c.isDigit then some (c :: rest) else none

/-- The plain form of a whole number that is written with a plus sign, leading
zeros, low lines or a zero fraction. A minus sign goes before the number or
after its leading zeros. -/
def plainWhole? (cs : List Char) : Option (List Char) :=
  let digits := match cs with
    | '+' :: rest => withoutLeadingZeros rest
    | '-' :: rest => (withoutLeadingZeros rest).map ('-' :: ·)
    | _ => withoutLeadingZeros cs
  digits.map fun digits => withoutLowLines (withoutZeroFraction digits)

/-- Read a whole number in plain form: a minus sign or none, and zero or digits
that start with another. Digits beyond the limit are too many whatever comes
after them. -/
def readPlainWhole (cs : List Char) : Except Mismatch Int :=
  let (negative, body) := match cs with
    | '-' :: rest => (true, rest)
    | _ => (false, cs)
  match body with
  | ['0'] => .ok 0
  | '0' :: _ => .error .unreadableWhole
  | _ =>
    let digits := body.takeWhile Char.isDigit
    if Numeral.mostDigits < digits.length then .error .wholeTooLarge
    else if digits.length < body.length then .error .unreadableWhole
    else match Numeral.digits? Text.asciiDigit? digits with
      | some magnitude => .ok (Numeral.signed negative magnitude)
      | none => .error .unreadableWhole

/-- The whole number that a text holds: in plain form, or else with blanks
around it and in another form that has a plain one. That a number has too many
digits is noticed only where it is written plainly. -/
def wholeOfText (s : String) : Except Mismatch Int :=
  match readPlainWhole s.toList with
  | .error .unreadableWhole =>
    match (plainWhole? (Text.trimBy isMargin s.toList)).map readPlainWhole with
    | some (.ok n) => .ok n
    | _ => .error .unreadableWhole
  | result => result

/-- Whether a whole number lies strictly between the bounds of a 64-bit word. -/
def withinWord (n : Int) : Bool := -twoTo 63 < n && n < twoTo 63

/-- A whole number. -/
def whole : Value → Checked Int
  | .int n => .valid n
  | .bool b => .valid (if b then 1 else 0)
  | v@(.real x) =>
    match x.toRat? with
    | none => mismatch .notFinite v
    | some q =>
      if q.den ≠ 1 then mismatch .fractional v
      else if withinWord q.num then .valid q.num
      else mismatch .wholeTooLarge v
  | v@(.text s) =>
    match wholeOfText s with
    | .ok n => .valid n
    | .error cause => mismatch cause v
  | v => mismatch .notWhole v

/-- A whole number within bounds, both included. -/
def wholeWithin (least greatest : Int) (v : Value) : Checked Int :=
  (whole v).andThen fun n =>
    if n < least then mismatch (.below least) v
    else if greatest < n then mismatch (.above greatest) v
    else .valid n

/-- The words for true. -/
def trueWords : List String := ["1", "on", "t", "true", "y", "yes"]

/-- The words for false. -/
def falseWords : List String := ["0", "off", "f", "false", "n", "no"]

/-- The truth value of a whole number. -/
def truthOfWhole (v : Value) (n : Int) : Checked Bool :=
  if n = 0 then .valid false
  else if n = 1 then .valid true
  else mismatch .unreadableTruth v

/-- Whether a whole number fits the range of a 64-bit word. -/
def fitsWord (n : Int) : Bool := -twoTo 63 ≤ n && n < twoTo 63

/-- A truth value. -/
def truth : Value → Checked Bool
  | .bool b => .valid b
  | v@(.int n) => if fitsWord n then truthOfWhole v n else mismatch .notTruth v
  | v@(.real x) =>
    match x.toInt? with
    | some n => if withinWord n then truthOfWhole v n else mismatch .notTruth v
    | none => mismatch .notTruth v
  | v@(.text s) =>
    let word := Text.lower s
    if trueWords.contains word then .valid true
    else if falseWords.contains word then .valid false
    else mismatch .unreadableTruth v
  | v => mismatch .notTruth v

/-- The fractional number that a text holds: with blanks around it, or with low
lines in it. -/
def numberOfText? (s : String) : Option Binary64 :=
  match Numeral.plainDecimal? (Text.trimBy isMargin s.toList) with
  | some x => some x
  | none => Numeral.plainDecimal? (withoutLowLines s.toList)

/-- A number of any kind, as a fractional one. -/
def number : Value → Checked Binary64
  | .real x => .valid x
  | v@(.int n) =>
    match Binary64.ofInt n with
    | .infinite _ => mismatch .notNumber v
    | x => .valid x
  | .bool b => .valid (Binary64.ofInt (if b then 1 else 0))
  | v@(.text s) =>
    match numberOfText? s with
    | some x => .valid x
    | none => mismatch .unreadableNumber v
  | v => mismatch .notNumber v

/-- One of a few texts, each with its meaning. -/
def choice {α : Type} (choices : List (String × α)) (v : Value) : Checked α :=
  let unknown : Checked α := mismatch (.noChoice (choices.map Prod.fst)) v
  match v with
  | .text s => match Table.at? choices s with
    | some meaning => .valid meaning
    | none => unknown
  | _ => unknown

end FlowDesk.Checked
