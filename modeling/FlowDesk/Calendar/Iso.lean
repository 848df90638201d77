/-
# Written moments

Reading and writing dates and times in the international notation. A date is
given by month and day or by week and day, with or without hyphens; a time
follows after one character of any kind, with or without colons, down to
fractions of a second; an offset from universal time may end it. A time that
is followed by an offset may carry one stray character before it, and an
offset of less than a second is none.
-/

import FlowDesk.Calendar.Moment
import FlowDesk.Number.Numeral
import FlowDesk.Text.Blank

namespace FlowDesk.Calendar

namespace Iso

/-- Read exactly some ASCII digits. -/
def digits (total : Nat) : (count : Nat) → List Char → Option (Nat × List Char)
  | 0, cs => some (total, cs)
  | count + 1, c :: rest =>
    (Text.asciiDigit? c).bind fun d => digits (10 * total + d) count rest
  | _ + 1, [] => none

/-- The length of the date with which a text begins, told from its form. -/
def dateLength? (cs : List Char) : Option Nat :=
  let isDigitAt (i : Nat) : Bool := (cs[i]?).any Char.isDigit
  if cs.length = 7 then some 7
  else if cs[4]? = some '-' then
    if cs[5]? = some 'W' then
      if cs[8]? = some '-' then
        if cs.length = 9 then none
        else if isDigitAt 10 then some 8
        else some 10
      else some 8
    else some 10
  else if cs[4]? = some 'W' then
    let run := 7 + ((cs.drop 7).takeWhile Char.isDigit).length
    if run < 9 then some run
    else if run % 2 = 0 then some 7
    else some 8
  else some 8

/-- Whether a year of weeks has a week with this number. -/
def hasWeek (year week : Nat) : Bool :=
  let first := weekday (daysBeforeYear year)
  (1 ≤ week && week ≤ 52) ||
    (week = 53 && (first = 3 || (first = 2 && isLeap year)))

/-- The number of the day given by year, week and day of the week. -/
def weekDate? (year week day : Nat) : Option Int :=
  if 1 ≤ year && hasWeek year week && 1 ≤ day && day ≤ 7 then
    some (firstWeek year + (week - 1 : Nat) * 7 + (day - 1 : Nat))
  else none

/-- Skip a hyphen where the notation has one. -/
def hyphen (hyphens : Bool) (cs : List Char) : Option (List Char) :=
  if hyphens then
    match cs with
    | '-' :: rest => some rest
    | _ => none
  else some cs

/-- Read a date, as the number of its day. -/
def date? (cs : List Char) : Option Int := do
  let (year, rest) ← digits 0 4 cs
  let hyphens := rest.head? = some '-'
  let rest := if hyphens then rest.drop 1 else rest
  match rest with
  | 'W' :: rest =>
    let (week, rest) ← digits 0 2 rest
    if rest.isEmpty then weekDate? year week 1
    else
      let rest ← hyphen hyphens rest
      let (day, _) ← digits 0 1 rest
      weekDate? year week day
  | rest =>
    let (month, rest) ← digits 0 2 rest
    let rest ← hyphen hyphens rest
    let (day, _) ← digits 0 2 rest
    let date : Date := ⟨year, month, day⟩
    if date.isValid then return (date.dayNumber : Int) else none

/-- A time of day as it is written, and whether something stands after it. -/
structure WrittenTime where
  hours : Nat
  minutes : Nat
  seconds : Nat
  micros : Nat
  stray : Bool

/-- Hours, minutes and seconds from those of the three that were written. -/
def WrittenTime.ofParts (parts : List Nat) (micros : Nat) (stray : Bool) : WrittenTime :=
  ⟨parts.getD 0 0, parts.getD 1 0, parts.getD 2 0, micros, stray⟩

/-- Whether a notation ends here: with its text, or with a zero character. -/
def isEnd : List Char → Bool
  | [] => true
  | c :: _ => c.toNat = 0

/-- Read a fraction of a second; digits beyond the sixth are dropped. -/
def fraction? (parts : List Nat) (cs : List Char) : Option WrittenTime :=
  let count := min 6 cs.length
  (digits 0 count cs).map fun (value, rest) =>
    .ofParts parts (value * tenTo (6 - count)) (!isEnd (rest.dropWhile Char.isDigit))

/-- Read hours, minutes and seconds, `missing` of which are still to come, and
a fraction. The character after the hours decides whether colons stand
between them. -/
def time? (parts : List Nat) (colons : Bool) : (missing : Nat) → List Char → Option WrittenTime
  | 0, cs => fraction? parts cs
  | missing + 1, cs =>
    (digits 0 2 cs).bind fun (part, rest) =>
      let parts := parts ++ [part]
      match rest with
      | [] => some (.ofParts parts 0 false)
      | [c] => if c.toNat < 128 then some (.ofParts parts 0 (!isEnd [c])) else none
      | c :: more =>
        let colons := if parts.length = 1 then c = ':' else colons
        if colons && c = ':' then time? parts colons missing more
        else if c = '.' || c = ',' then fraction? parts more
        else if !colons then time? parts colons missing (c :: more)
        else none

/-- The microseconds of a time. -/
def WrittenTime.ticks (time : WrittenTime) : Int :=
  time.hours * hour + time.minutes * minute + time.seconds * second + time.micros

/-- Whether a time is one of a day. -/
def WrittenTime.isValid (time : WrittenTime) : Bool :=
  time.hours < 24 && time.minutes < 60 && time.seconds < 60

/-- Whether a character begins an offset. -/
def startsOffset (c : Char) : Bool := c = '+' || c = '-' || c = 'Z'

/-- Read a time of day with an offset, if it has one. -/
def timeAndOffset? (cs : List Char) : Option (Int × Option Int) := do
  let time ← time? [] true 3 (cs.takeWhile fun c => !startsOffset c)
  if !time.isValid then none
  else match cs.dropWhile fun c => !startsOffset c with
  | [] => if time.stray then none else return (time.ticks, none)
  | 'Z' :: rest => if isEnd rest then return (time.ticks, some 0) else none
  | sign :: rest =>
    let offset ← time? [] true 3 rest
    if offset.stray || fullDay ≤ offset.ticks then none
    else if offset.ticks < second then return (time.ticks, some 0)
    else return (time.ticks, some (if sign = '-' then -offset.ticks else offset.ticks))

/-- Read a moment: a reading of a clock, and its offset if one is given. -/
def read? (s : String) : Option (Clock × Option Int) := do
  let cs := s.toList
  let length ← dateLength? cs
  let day ← date? (cs.take length)
  let midnight := day * fullDay
  match cs.drop length with
  | [] => (Clock.ofTicks? midnight).map fun clock => (clock, none)
  | _ :: rest =>
    let (time, offset) ← timeAndOffset? rest
    (Clock.ofTicks? (midnight + time)).map fun clock => (clock, offset)

/-- The digits of a number, padded with zeros to a width. -/
def padded (width n : Nat) : List Char :=
  let digits := Nat.toDigits 10 n
  List.replicate (width - digits.length) '0' ++ digits

/-- Hours and minutes with a colon between them; `ticks` is not negative. -/
def hoursAndMinutes (ticks : Int) : List Char :=
  padded 2 (ticks / hour).toNat ++ ':' :: padded 2 (ticks % hour / minute).toNat

/-- An offset with its sign; seconds and fractions only where there are any. -/
def offsetText (offset : Int) : List Char :=
  let size : Int := offset.natAbs
  let micros := (size % second).toNat
  let seconds := (size % minute / second).toNat
  (if offset < 0 then '-' else '+') :: hoursAndMinutes size ++
    (if seconds = 0 ∧ micros = 0 then [] else ':' :: padded 2 seconds) ++
    (if micros = 0 then [] else '.' :: padded 6 micros)

/-- A date with its year in four digits. -/
def dateText (date : Date) : List Char :=
  padded 4 date.year ++ '-' :: padded 2 date.month ++ '-' :: padded 2 date.day

/-- A reading of a clock; a fraction only where there is one. -/
def clockText (clock : Clock) : List Char :=
  let time := clock.timeOfDay
  let micros := (time % second).toNat
  dateText clock.date ++ 'T' :: hoursAndMinutes time ++
    ':' :: padded 2 (time % minute / second).toNat ++
    (if micros = 0 then [] else '.' :: padded 6 micros)

/-- The text of a moment. -/
def text (moment : Moment) : String :=
  String.ofList (clockText moment.clock ++ offsetText moment.offset)

end Iso

namespace Day

/-- The month of a written day: one digit, or two. -/
def month? : List Char → Option Nat
  | [c] => if '1' ≤ c && c ≤ '9' then Text.asciiDigit? c else none
  | ['1', c] => if '0' ≤ c && c ≤ '2' then some (10 + (c.toNat - 48)) else none
  | ['0', c] => if '1' ≤ c && c ≤ '9' then Text.asciiDigit? c else none
  | _ => none

/-- The day of the month of a written day: one digit, or two, or one after a
blank. -/
def day? : List Char → Option Nat
  | [c] => if '1' ≤ c && c ≤ '9' then Text.asciiDigit? c else none
  | ['3', c] => if c = '0' || c = '1' then some (30 + (c.toNat - 48)) else none
  | ['1', c] => (Text.digitValue? c).map (10 + ·)
  | ['2', c] => (Text.digitValue? c).map (20 + ·)
  | ['0', c] => if '1' ≤ c && c ≤ '9' then Text.asciiDigit? c else none
  | [' ', c] => if '1' ≤ c && c ≤ '9' then Text.asciiDigit? c else none
  | _ => none

/-- The year of a written day: four digits of any script. -/
def year? : List Char → Option Nat
  | [a, b, c, d] => do
    let a ← Text.digitValue? a
    let b ← Text.digitValue? b
    let c ← Text.digitValue? c
    let d ← Text.digitValue? d
    return ((a * 10 + b) * 10 + c) * 10 + d
  | _ => none

/-- Read a day as year, month and day with hyphens between them. -/
def read? (s : String) : Option Date := do
  let cs := s.toList
  let year ← year? (cs.take 4)
  match cs.drop 4 with
  | '-' :: rest =>
    let month ← month? (rest.takeWhile (· ≠ '-'))
    match rest.dropWhile (· ≠ '-') with
    | '-' :: rest =>
      let day ← day? rest
      let date : Date := ⟨year, month, day⟩
      if date.isValid then return date else none
    | _ => none
  | _ => none

end Day

namespace Moment

/-- The date of a moment as day, month and year. -/
def dateText (moment : Moment) : String :=
  let date := moment.clock.date
  String.ofList (Iso.padded 2 date.day ++ '/' :: Iso.padded 2 date.month ++
    '/' :: Iso.padded 1 date.year)

/-- The time of a moment as hours and minutes. -/
def timeText (moment : Moment) : String :=
  String.ofList (Iso.hoursAndMinutes moment.clock.timeOfDay)

/-- Read a moment; without an offset it is one of the given zone. -/
def read? (zone : Zone) (s : String) : Option Moment :=
  (Iso.read? s).map fun (clock, offset) =>
    ⟨clock, match offset with
      | some offset => .constant offset
      | none => zone, false⟩

/-- Read a moment, blanks around it aside; without an offset it is one of the
given region. -/
def readLocal? (region : Region) (s : String) : Option Moment :=
  read? (.region region) (Text.trim s)

end Moment

end FlowDesk.Calendar
