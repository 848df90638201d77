/-
# The bundled regions

Four regions with the history of their clocks, as the time zone database has it,
and the folders and other files of that database.
-/

import FlowDesk.Calendar.Naming
import FlowDesk.Calendar.Seasons

namespace FlowDesk.Calendar

namespace Region

/-- Universal time. -/
def universal : Region where
  name := "UTC"
  history := ⟨0, [], lastYear + 1, []⟩
  sound := ⟨by decide, trivial⟩

/-- The changes of India's clocks: to the times of observatories, to standard
time, and to daylight time and back in a war. -/
def kolkata : Region where
  name := "Asia/Kolkata"
  history :=
    { first := 5 * hour + 53 * minute + 28 * second
      past :=
        [ .on 1854 6 27 (18 * hour + 6 * minute + 32 * second)
            (5 * hour + 53 * minute + 20 * second) false,
          .on 1869 12 31 (18 * hour + 6 * minute + 40 * second)
            (5 * hour + 21 * minute + 10 * second) false,
          .on 1905 12 31 (18 * hour + 38 * minute + 50 * second) (5 * hour + 30 * minute) false,
          .on 1941 9 30 (18 * hour + 30 * minute) (6 * hour + 30 * minute) true,
          .on 1942 5 14 (17 * hour + 30 * minute) (5 * hour + 30 * minute) false,
          .on 1942 8 31 (18 * hour + 30 * minute) (6 * hour + 30 * minute) true,
          .on 1945 10 14 (17 * hour + 30 * minute) (5 * hour + 30 * minute) false ]
      since := lastYear + 1
      yearly := [] }
  sound := ⟨by decide, by decide +kernel⟩

/-- The change of spring and the change of autumn in New York: at two o'clock
on Sundays. -/
def newYorkRules (spring autumn : Nat × Nat) : List Yearly :=
  [ ⟨spring.1, spring.2, 6, 7 * hour, -4 * hour, true⟩,
    ⟨autumn.1, autumn.2, 6, 6 * hour, -5 * hour, false⟩ ]

/-- The history of New York's clocks. -/
def newYorkHistory : History where
  first := -(4 * hour + 56 * minute + 2 * second)
  past :=
    [.on 1883 11 18 (17 * hour) (-5 * hour) false] ++
    Yearly.seasons (newYorkRules (3, 25) (10, 25)) 1918 3 ++
    Yearly.seasons (newYorkRules (4, 24) (9, 24)) 1921 21 ++
    [ .on 1942 2 9 (7 * hour) (-4 * hour) true,
      .on 1945 9 30 (6 * hour) (-5 * hour) false ] ++
    Yearly.seasons (newYorkRules (4, 24) (9, 24)) 1946 9 ++
    Yearly.seasons (newYorkRules (4, 24) (10, 25)) 1955 19 ++
    [ .on 1974 1 6 (7 * hour) (-4 * hour) true,
      .on 1974 10 27 (6 * hour) (-5 * hour) false,
      .on 1975 2 23 (7 * hour) (-4 * hour) true,
      .on 1975 10 26 (6 * hour) (-5 * hour) false ] ++
    Yearly.seasons (newYorkRules (4, 24) (10, 25)) 1976 11 ++
    Yearly.seasons (newYorkRules (4, 1) (10, 25)) 1987 20
  since := 2007
  yearly := newYorkRules (3, 8) (11, 1)

/-- The clocks of New York. -/
def newYork : Region where
  name := "America/New_York"
  history := newYorkHistory
  sound := History.sound_of_alternate rfl ⟨by decide, by decide, by decide⟩
    (by decide +kernel) (by decide +kernel) (by decide) (by decide +kernel) (by decide +kernel)

/-- The change of spring and the change of autumn in Rome: at one o'clock
universal time on Sundays. -/
def romeRules (autumn : Nat × Nat) : List Yearly :=
  [⟨3, 25, 6, hour, 2 * hour, true⟩, ⟨autumn.1, autumn.2, 6, hour, hour, false⟩]

/-- The history of Rome's clocks. -/
def romeHistory : History where
  first := 49 * minute + 56 * second
  past :=
    [ .on 1893 10 31 (23 * hour) hour false,
      .on 1916 6 3 (23 * hour) (2 * hour) true,
      .on 1916 9 30 (22 * hour) hour false,
      .on 1917 3 31 (23 * hour) (2 * hour) true,
      .on 1917 9 30 (22 * hour) hour false,
      .on 1918 3 9 (23 * hour) (2 * hour) true,
      .on 1918 10 6 (22 * hour) hour false,
      .on 1919 3 1 (23 * hour) (2 * hour) true,
      .on 1919 10 4 (22 * hour) hour false,
      .on 1920 3 20 (23 * hour) (2 * hour) true,
      .on 1920 9 18 (22 * hour) hour false,
      .on 1940 6 14 (23 * hour) (2 * hour) true,
      .on 1942 11 2 hour hour false,
      .on 1943 3 29 hour (2 * hour) true,
      .on 1943 10 4 hour hour false,
      .on 1944 4 3 hour (2 * hour) true,
      .on 1944 9 17 hour hour false,
      .on 1945 4 2 hour (2 * hour) true,
      .on 1945 9 14 (23 * hour) hour false,
      .on 1946 3 17 hour (2 * hour) true,
      .on 1946 10 6 hour hour false,
      .on 1947 3 15 (23 * hour) (2 * hour) true,
      .on 1947 10 4 (23 * hour) hour false,
      .on 1948 2 29 hour (2 * hour) true,
      .on 1948 10 3 hour hour false,
      .on 1966 5 21 (23 * hour) (2 * hour) true,
      .on 1966 9 24 (22 * hour) hour false,
      .on 1967 5 27 (23 * hour) (2 * hour) true,
      .on 1967 9 23 (23 * hour) hour false,
      .on 1968 5 25 (23 * hour) (2 * hour) true,
      .on 1968 9 21 (23 * hour) hour false,
      .on 1969 5 31 (23 * hour) (2 * hour) true,
      .on 1969 9 27 (23 * hour) hour false,
      .on 1970 5 30 (23 * hour) (2 * hour) true,
      .on 1970 9 26 (23 * hour) hour false,
      .on 1971 5 22 (23 * hour) (2 * hour) true,
      .on 1971 9 25 (23 * hour) hour false,
      .on 1972 5 27 (23 * hour) (2 * hour) true,
      .on 1972 9 30 (23 * hour) hour false,
      .on 1973 6 2 (23 * hour) (2 * hour) true,
      .on 1973 9 29 (23 * hour) hour false,
      .on 1974 5 25 (23 * hour) (2 * hour) true,
      .on 1974 9 28 (23 * hour) hour false,
      .on 1975 5 31 (23 * hour) (2 * hour) true,
      .on 1975 9 27 (23 * hour) hour false,
      .on 1976 5 29 (23 * hour) (2 * hour) true,
      .on 1976 9 25 (23 * hour) hour false,
      .on 1977 5 21 (23 * hour) (2 * hour) true,
      .on 1977 9 24 (23 * hour) hour false,
      .on 1978 5 27 (23 * hour) (2 * hour) true,
      .on 1978 9 30 (23 * hour) hour false,
      .on 1979 5 26 (23 * hour) (2 * hour) true,
      .on 1979 9 29 (23 * hour) hour false,
      .on 1980 4 6 hour (2 * hour) true,
      .on 1980 9 28 hour hour false ] ++
    Yearly.seasons (romeRules (9, 24)) 1981 15
  since := 1996
  yearly := romeRules (10, 25)

/-- The clocks of Rome. -/
def rome : Region where
  name := "Europe/Rome"
  history := romeHistory
  sound := History.sound_of_alternate rfl ⟨by decide, by decide, by decide⟩
    (by decide +kernel) (by decide +kernel) (by decide) (by decide +kernel) (by decide +kernel)

end Region

end FlowDesk.Calendar

namespace FlowDesk.Bundled

open Calendar

/-- The bundled regions, and where the database files others. -/
def atlas : Atlas where
  regions := [.universal, .kolkata, .newYork, .rome]
  folders :=
    [ "Africa", "America", "America/Argentina", "America/Indiana", "America/Kentucky",
      "America/North_Dakota", "Antarctica", "Arctic", "Asia", "Atlantic", "Australia", "Brazil",
      "Canada", "Chile", "Etc", "Europe", "Indian", "Mexico", "Pacific", "US" ]
  otherFiles := ["iso3166.tab", "leapseconds", "tzdata.zi", "zone.tab", "zone1970.tab"]

end FlowDesk.Bundled
