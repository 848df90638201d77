/-
# Moments

A moment is a reading of the local clock in a zone. Clocks count microseconds
from the beginning of the calendar and stay within it. A zone is a constant
offset from universal time, or a region with its history of offsets. Where a
region's clock shows one reading twice, a moment says which of the two it means.
-/

import FlowDesk.Calendar.Region

namespace FlowDesk.Calendar

/-- The number of readings that a clock can show within the calendar. -/
def clockLimit : Int := dayCount * fullDay

/-- A reading of a clock, in microseconds from the beginning of the calendar. -/
structure Clock where
  ticks : Int
  notEarlier : 0 ≤ ticks
  notLater : ticks < clockLimit
  deriving DecidableEq

namespace Clock

/-- The reading after some microseconds, unless it lies outside the calendar. -/
def ofTicks? (ticks : Int) : Option Clock :=
  if h : 0 ≤ ticks ∧ ticks < clockLimit then some ⟨ticks, h.1, h.2⟩ else none

/-- The number of the day. -/
def dayNumber (clock : Clock) : Nat := (clock.ticks / fullDay).toNat

/-- The date. -/
def date (clock : Clock) : Date := Date.ofDayNumber clock.dayNumber

/-- Microseconds since midnight. -/
def timeOfDay (clock : Clock) : Int := clock.ticks % fullDay

/-- The midnight with which the day began. -/
def midnight (clock : Clock) : Int := clock.ticks - clock.timeOfDay

/-- The reading at a date and a time of day. -/
def atTime? (date : Date) (timeOfDay : Int) : Option Clock :=
  if date.isValid then ofTicks? (date.dayNumber * fullDay + timeOfDay) else none

end Clock

/-- A zone: a constant offset, or a region. -/
inductive Zone where
  | constant (offset : Int)
  | region (region : Region)
  deriving DecidableEq

/-- A reading of the clock of a zone; `again` when the clock shows it for the
second time. -/
structure Moment where
  clock : Clock
  zone : Zone
  again : Bool
  deriving DecidableEq

namespace Moment

/-- The offset of the zone from universal time. -/
def offset (moment : Moment) : Int :=
  match moment.zone with
  | .constant offset => offset
  | .region region => region.offset moment.clock.ticks moment.again

/-- The instant in universal time. -/
def instant (moment : Moment) : Int :=
  moment.clock.ticks - moment.offset

/-- Whether a moment comes before another: moments of one zone are compared by
their readings, others by their instants. -/
def before (a b : Moment) : Bool :=
  if a.zone = b.zone then a.clock.ticks < b.clock.ticks else a.instant < b.instant

/-- The moment in a region, unless it lies outside the calendar there or in
universal time. A moment of the region itself stays as it is. -/
def inRegion? (moment : Moment) (region : Region) : Option Moment :=
  if moment.zone = .region region then some moment
  else
    (Clock.ofTicks? moment.instant).bind fun universal =>
      let (offset, again) := region.offsetAt universal.ticks
      (Clock.ofTicks? (universal.ticks + offset)).map fun clock =>
        ⟨clock, .region region, again⟩

/-- The reading some microseconds later on the same clock, unless it lies
outside the calendar. -/
def later? (moment : Moment) (ticks : Int) : Option Moment :=
  (Clock.ofTicks? (moment.clock.ticks + ticks)).map fun clock => ⟨clock, moment.zone, false⟩

end Moment

end FlowDesk.Calendar
