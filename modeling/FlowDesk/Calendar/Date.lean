/-
# Dates

The days of the calendar from the first day of year 1 to the last day of year
9999, numbered from zero, and their dates.
-/

namespace FlowDesk.Calendar

/-- A date by year, month and day of the month, all counted from one. -/
structure Date where
  year : Nat
  month : Nat
  day : Nat
  deriving DecidableEq

/-- Whether a year has a 29th of February. -/
def isLeap (year : Nat) : Bool :=
  year % 4 == 0 && (year % 100 != 0 || year % 400 == 0)

/-- The number of days of a month. -/
def monthLength (year month : Nat) : Nat :=
  match month with
  | 2 => if isLeap year then 29 else 28
  | 4 | 6 | 9 | 11 => 30
  | _ => 31

/-- The number of days before the first day of a year. -/
def daysBeforeYear (year : Nat) : Nat :=
  let past := year - 1
  past * 365 + past / 4 - past / 100 + past / 400

/-- The number of days of a year before the first day of a month. -/
def daysBeforeMonth (year : Nat) : Nat → Nat
  | 0 => 0
  | 1 => 0
  | month + 1 => daysBeforeMonth year month + monthLength year month

/-- The number of days of the calendar. -/
def dayCount : Nat := 3652059

namespace Date

/-- Whether there is such a date in the calendar. -/
def isValid (date : Date) : Bool :=
  1 ≤ date.year && date.year ≤ 9999 && 1 ≤ date.month && date.month ≤ 12 &&
    1 ≤ date.day && date.day ≤ monthLength date.year date.month

/-- The number of the day with a date. -/
def dayNumber (date : Date) : Nat :=
  daysBeforeYear date.year + daysBeforeMonth date.year date.month + (date.day - 1)

/-- The month and day of the `rest`-th day after the first of a month. -/
def fromMonth (year : Nat) : (monthsLeft : Nat) → (rest : Nat) → Date
  | 0, rest => ⟨year, 12, rest + 1⟩
  | monthsLeft + 1, rest =>
    let month := 12 - (monthsLeft + 1)
    let length := monthLength year month
    if rest < length then ⟨year, month, rest + 1⟩ else fromMonth year monthsLeft (rest - length)

/-- The date of the day with a number. -/
def ofDayNumber (day : Nat) : Date :=
  let cycles := day / 146097
  let inCycle := day % 146097
  let centuries := min 3 (inCycle / 36524)
  let inCentury := inCycle - centuries * 36524
  let leaps := inCentury / 1461
  let inLeap := inCentury % 1461
  let years := min 3 (inLeap / 365)
  let inYear := inLeap - years * 365
  fromMonth (cycles * 400 + centuries * 100 + leaps * 4 + years + 1) 11 inYear

end Date

/-- The day of the week of a day: Monday is 0, Sunday is 6. -/
def weekday (day : Nat) : Nat := day % 7

/-- The number of the Monday with which a year of weeks begins: the first
week has at least four days in the year. -/
def firstWeek (year : Nat) : Int :=
  let first := daysBeforeYear year
  let back := weekday first
  if back ≤ 3 then (first : Int) - back else (first : Int) - back + 7

end FlowDesk.Calendar
