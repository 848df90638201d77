/-
# Regions

The clock of a region has an offset from universal time that changes now and
then: at the changes of its past, and from some year on by rules that hold for
every year. Between two changes lies an era of the region. A reading of the
clock tells the era, except around a change: where the clock was set forward,
some readings are skipped, and where it was set back, some are shown twice.

Changes lie so far apart that no reading is touched by two of them; this and
the size of offsets is part of what a region is.
-/

import FlowDesk.Calendar.Date

namespace FlowDesk.Calendar

/-- Microseconds in a second. -/
def second : Int := 1000000

/-- Microseconds in a minute. -/
def minute : Int := 60 * second

/-- Microseconds in an hour. -/
def hour : Int := 60 * minute

/-- Microseconds in a day. -/
def fullDay : Int := 24 * hour

/-- An offset that a zone may have: less than a day in either direction. -/
def IsOffset (offset : Int) : Prop := -fullDay < offset ∧ offset < fullDay

instance (offset : Int) : Decidable (IsOffset offset) := inferInstanceAs (Decidable (_ ∧ _))

/-- The change of a region's clock to an offset, at an instant of universal
time; the new offset is that of daylight time or of standard time. -/
structure Change where
  instant : Int
  offset : Int
  daylight : Bool
  deriving DecidableEq

/-- The change at a time of a day. -/
def Change.at (day : Nat) (time offset : Int) (daylight : Bool) : Change :=
  ⟨day * fullDay + time, offset, daylight⟩

/-- The change at a time of a date. -/
def Change.on (year month day : Nat) (time offset : Int) (daylight : Bool) : Change :=
  .at (Date.mk year month day).dayNumber time offset daylight

/-- A change that recurs: every year at a time of the first day that is on or
after a date and has a place in the week. -/
structure Yearly where
  month : Nat
  day : Nat
  weekday : Nat
  time : Int
  offset : Int
  daylight : Bool
  deriving DecidableEq

namespace Yearly

/-- The day of a recurring change in a year. -/
def dayIn (rule : Yearly) (year : Nat) : Nat :=
  let earliest := (Date.mk year rule.month rule.day).dayNumber
  earliest + (rule.weekday + 7 - Calendar.weekday earliest) % 7

/-- A recurring change in a year. -/
def changeIn (rule : Yearly) (year : Nat) : Change :=
  .at (rule.dayIn year) rule.time rule.offset rule.daylight

/-- The changes by some rules in some years. -/
def seasons (rules : List Yearly) (first count : Nat) : List Change :=
  (List.range' first count).flatMap fun year => rules.map (·.changeIn year)

end Yearly

/-- An era of a region's clock: it starts with a change from the offset before
to its own. -/
structure Era where
  start : Int
  before : Int
  offset : Int
  daylight : Bool
  deriving DecidableEq

namespace Era

/-- The era that a change begins. -/
def next (era : Era) (change : Change) : Era :=
  ⟨change.instant, era.offset, change.offset, change.daylight⟩

/-- The reading of the local clock from which an era counts. A reading that
its change skips still counts as before it, and one that is shown twice as
well, unless the second showing is meant. -/
def reading (era : Era) (again : Bool) : Int :=
  era.start + (if again then min era.before era.offset else max era.before era.offset)

/-- Whether a clock that is in an era at an instant shows its reading for the
second time: it was set back, and has not come to where it was. -/
def repeats (era : Era) (instant : Int) : Bool :=
  instant < era.start + (era.before - era.offset)

/-- The last era to have begun, among an era and those that some changes begin
after it; when all of them have begun, it is sought onward. -/
def through (begun : Era → Bool) (onward : Era → Era) : Era → List Change → Era
  | era, [] => onward era
  | era, change :: later =>
    if begun (era.next change) then through begun onward (era.next change) later else era

/-- Every change after an era is over, at both showings of the readings around
it, before the next one begins. -/
def Ordered : Era → List Change → Prop
  | _, [] => True
  | era, change :: later =>
    era.reading false ≤ (era.next change).reading true ∧ Ordered (era.next change) later

instance decidableOrdered : (era : Era) → (changes : List Change) → Decidable (era.Ordered changes)
  | _, [] => inferInstanceAs (Decidable True)
  | era, change :: later =>
    have := decidableOrdered (era.next change) later
    inferInstanceAs (Decidable (_ ∧ _))

end Era

/-- The last year of the calendar. -/
def lastYear : Nat := 9999

/-- What a region's clock has shown, and will: its first offset, the changes of
its past, and the rules of every year since. -/
structure History where
  first : Int
  past : List Change
  since : Nat
  yearly : List Yearly
  deriving DecidableEq

namespace History

/-- The era before the first change. -/
def firstEra (history : History) : Era := ⟨0, history.first, history.first, false⟩

/-- All changes until the end of the calendar. -/
def changes (history : History) : List Change :=
  history.past ++ Yearly.seasons history.yearly history.since (lastYear + 1 - history.since)

/-- All offsets. -/
def offsets (history : History) : List Int :=
  history.first :: (history.past.map (·.offset) ++ history.yearly.map (·.offset))

/-- A history of offsets in whole seconds, and of changes far enough apart. -/
structure Sound (history : History) : Prop where
  offsets : ∀ offset ∈ history.offsets, IsOffset offset ∧ second ∣ offset
  ordered : history.firstEra.Ordered history.changes

/-- The last era to have begun, among an era and those of some years from a
year on. -/
def eraFrom (history : History) (begun : Era → Bool) : (years year : Nat) → Era → Era
  | 0, _, era => era
  | years + 1, year, era =>
    era.through begun (history.eraFrom begun years (year + 1))
      (history.yearly.map (·.changeIn year))

/-- The last era to have begun. -/
def era (history : History) (begun : Era → Bool) : Era :=
  history.firstEra.through begun
    (history.eraFrom begun (lastYear + 1 - history.since) history.since) history.past

end History

/-- A region with its name. -/
structure Region where
  name : String
  history : History
  sound : history.Sound
  deriving DecidableEq

namespace Region

/-- The era in which the region's clock shows a reading, for the first time or
again. -/
def eraOf (region : Region) (reading : Int) (again : Bool) : Era :=
  region.history.era fun era => era.reading again ≤ reading

/-- The era at an instant. -/
def eraAt (region : Region) (instant : Int) : Era :=
  region.history.era fun era => era.start ≤ instant

/-- The offset of a region whose clock shows a reading, for the first time or
again. -/
def offset (region : Region) (reading : Int) (again : Bool) : Int :=
  (region.eraOf reading again).offset

/-- The offset of a region at an instant, and whether its clock then shows a
reading for the second time. -/
def offsetAt (region : Region) (instant : Int) : Int × Bool :=
  let era := region.eraAt instant
  (era.offset, era.repeats instant)

end Region

end FlowDesk.Calendar
