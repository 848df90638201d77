/-
# Dates and the numbers of days

Days are numbered through, and a date is another name for such a number: the
date of a day has its number again (`Date.dayNumber_ofDayNumber`), and a date
of the calendar has the number of a day in its year (`Date.dayNumber_bounds`).
A date that is written in the international notation is read back as it was
(`Day.read?_dateText`), also by a reader that trims and lowers a text before it
looks at it.
-/

import FlowDesk.Calendar.Iso
import FlowDesk.Proofs.Text.Blank
import FlowDesk.Text.Case
import Mathlib.Tactic.IntervalCases

namespace FlowDesk

namespace Calendar

/-! ## Units of time -/

/-- A day in microseconds. -/
theorem fullDay_eq : fullDay = 86400000000 := by decide

/-- The length of the calendar in microseconds. -/
theorem clockLimit_eq : clockLimit = (dayCount : Int) * 86400000000 := by decide

/-! ## Years -/

/-- A later year begins later. -/
theorem daysBeforeYear_le {earlier later : Nat} (hle : earlier ≤ later) :
    daysBeforeYear earlier ≤ daysBeforeYear later := by
  induction hle with
  | refl => exact Nat.le_refl _
  | step _ ih =>
    apply Nat.le_trans ih
    simp only [daysBeforeYear]
    omega

/-- A day of the year of a month is one of that year. -/
theorem Date.fromMonth_year (year monthsLeft rest : Nat) :
    (fromMonth year monthsLeft rest).year = year := by
  induction monthsLeft generalizing rest with
  | zero => rfl
  | succ monthsLeft ih =>
    unfold fromMonth
    dsimp only
    split
    · rfl
    · exact ih _

/-- The days before a year, told from its place in the cycle of leap years. -/
theorem daysBeforeYear_parts (cycles : Nat) {centuries leaps years : Nat} (hleaps : leaps ≤ 24)
    (hcenturies : centuries ≤ 3) (hyears : years ≤ 3) :
    daysBeforeYear (cycles * 400 + centuries * 100 + leaps * 4 + years + 1) =
      cycles * 146097 + centuries * 36524 + leaps * 1461 + years * 365 := by
  simp only [daysBeforeYear, Nat.add_sub_cancel]
  have hfour : (cycles * 400 + centuries * 100 + leaps * 4 + years) / 4 =
      cycles * 100 + centuries * 25 + leaps := by omega
  have hhundred : (cycles * 400 + centuries * 100 + leaps * 4 + years) / 100 =
      cycles * 4 + centuries := by omega
  have hcycle : (cycles * 400 + centuries * 100 + leaps * 4 + years) / 400 = cycles := by omega
  rw [hfour, hhundred, hcycle]
  omega

/-- The year after one in the cycle of leap years, which has one more day at
the end of four years, except at the end of the first three centuries. -/
theorem daysBeforeYear_succ_parts (cycles : Nat) {centuries leaps years : Nat}
    (hleaps : leaps ≤ 24) (hcenturies : centuries ≤ 3) (hyears : years ≤ 3) :
    daysBeforeYear (cycles * 400 + centuries * 100 + leaps * 4 + years + 1 + 1) =
      cycles * 146097 + centuries * 36524 + leaps * 1461 + years * 365 +
        if years = 3 ∧ (leaps = 24 → centuries = 3) then 366 else 365 := by
  simp only [daysBeforeYear, Nat.add_sub_cancel]
  have hfour : (cycles * 400 + centuries * 100 + leaps * 4 + years + 1) / 4 =
      cycles * 100 + centuries * 25 + leaps + if years = 3 then 1 else 0 := by
    split <;> omega
  have hhundred : (cycles * 400 + centuries * 100 + leaps * 4 + years + 1) / 100 =
      cycles * 4 + centuries + if leaps = 24 ∧ years = 3 then 1 else 0 := by
    split <;> omega
  have hcycle : (cycles * 400 + centuries * 100 + leaps * 4 + years + 1) / 400 =
      cycles + if centuries = 3 ∧ leaps = 24 ∧ years = 3 then 1 else 0 := by
    split <;> omega
  rw [hfour, hhundred, hcycle]
  by_cases hy : years = 3 <;> by_cases hl : leaps = 24 <;> by_cases hc : centuries = 3 <;>
    simp only [hy, hl, hc, and_self, and_true, and_false, if_true, if_false,
      true_implies, false_implies] <;> omega

/-- The date of a day is in the year that the day is in. -/
theorem Date.ofDayNumber_year (day : Nat) :
    daysBeforeYear (ofDayNumber day).year ≤ day ∧
      day < daysBeforeYear ((ofDayNumber day).year + 1) := by
  simp only [ofDayNumber, fromMonth_year]
  have hday := Nat.div_add_mod day 146097
  have hcycle := Nat.mod_lt day (show 146097 > 0 by decide)
  generalize day / 146097 = cycles at hday ⊢
  generalize day % 146097 = inCycle at hday hcycle ⊢
  obtain ⟨centuries, hcenturies⟩ : ∃ n, min 3 (inCycle / 36524) = n := ⟨_, rfl⟩
  rw [hcenturies]
  obtain ⟨inCentury, hinCentury⟩ : ∃ n, inCycle - centuries * 36524 = n := ⟨_, rfl⟩
  rw [hinCentury]
  have hcentury := Nat.div_add_mod inCentury 1461
  have hleap := Nat.mod_lt inCentury (show 1461 > 0 by decide)
  generalize inCentury / 1461 = leaps at hcentury ⊢
  generalize inCentury % 1461 = inLeap at hcentury hleap ⊢
  obtain ⟨years, hyears⟩ : ∃ n, min 3 (inLeap / 365) = n := ⟨_, rfl⟩
  rw [hyears]
  have hleaps : leaps ≤ 24 := by omega
  rw [daysBeforeYear_parts cycles hleaps (by omega) (by omega),
    daysBeforeYear_succ_parts cycles hleaps (by omega) (by omega)]
  refine ⟨by omega, ?_⟩
  split <;> omega

/-! ## Numbers of days -/

/-- A year has 365 days, or 366 if it is a leap year. -/
theorem daysBeforeYear_succ {year : Nat} (hyear : 1 ≤ year) :
    daysBeforeYear (year + 1) = daysBeforeYear year + if isLeap year then 366 else 365 := by
  obtain ⟨past, rfl⟩ : ∃ past, year = past + 1 := ⟨year - 1, by omega⟩
  have hfour : (past + 1) / 4 = past / 4 + if (past + 1) % 4 = 0 then 1 else 0 := by
    split <;> omega
  have hhundred : (past + 1) / 100 = past / 100 + if (past + 1) % 100 = 0 then 1 else 0 := by
    split <;> omega
  have hcycle : (past + 1) / 400 = past / 400 + if (past + 1) % 400 = 0 then 1 else 0 := by
    split <;> omega
  have hfewer : past / 100 ≤ past / 4 := by omega
  simp only [daysBeforeYear, Nat.add_sub_cancel, isLeap, Bool.and_eq_true, Bool.or_eq_true,
    beq_iff_eq, bne_iff_ne, hfour, hhundred, hcycle]
  by_cases hleap : (past + 1) % 4 = 0 <;> by_cases hcentury : (past + 1) % 100 = 0 <;>
    by_cases hcycle : (past + 1) % 400 = 0 <;> simp [hleap, hcentury, hcycle] <;> omega

namespace Date

/-- The date of a day, counted from the first of a month, has the number of
that day. -/
theorem dayNumber_fromMonth (year : Nat) {monthsLeft : Nat} (hmonths : monthsLeft ≤ 11)
    (rest : Nat) :
    (fromMonth year monthsLeft rest).dayNumber =
      daysBeforeYear year + daysBeforeMonth year (12 - monthsLeft) + rest := by
  induction monthsLeft generalizing rest with
  | zero => rfl
  | succ monthsLeft ih =>
    obtain ⟨month, hmonth⟩ : ∃ month, 12 - (monthsLeft + 1) = month + 1 :=
      ⟨10 - monthsLeft, by omega⟩
    have hnext : 12 - monthsLeft = month + 1 + 1 := by omega
    have hlength : daysBeforeMonth year (month + 1 + 1) =
        daysBeforeMonth year (month + 1) + monthLength year (month + 1) := rfl
    unfold fromMonth
    dsimp only
    rw [hmonth]
    split
    · rfl
    · rw [ih (by omega), hnext, hlength]
      omega

/-- The date of a day has the number of that day. -/
theorem dayNumber_ofDayNumber (day : Nat) : (ofDayNumber day).dayNumber = day := by
  simp only [ofDayNumber]
  rw [dayNumber_fromMonth _ (by decide)]
  have hfirst : ∀ year, daysBeforeMonth year (12 - 11) = 0 := fun _ => rfl
  rw [hfirst, daysBeforeYear_parts _ (by omega) (by omega) (by omega)]
  omega

/-- A date of the calendar has the number of a day in its year. -/
theorem dayNumber_bounds {date : Date} (hvalid : date.isValid) :
    daysBeforeYear date.year ≤ date.dayNumber ∧
      date.dayNumber < daysBeforeYear (date.year + 1) := by
  obtain ⟨year, month, day⟩ := date
  simp only [isValid, Bool.and_eq_true, decide_eq_true_eq] at hvalid
  obtain ⟨⟨⟨⟨⟨hyear, -⟩, hmonth⟩, hmonth'⟩, hday⟩, hday'⟩ := hvalid
  refine ⟨Nat.le_add_right_of_le (Nat.le_add_right _ _), ?_⟩
  have hdays : daysBeforeMonth year month + monthLength year month ≤
      if isLeap year then 366 else 365 := by
    interval_cases month <;> simp only [daysBeforeMonth, monthLength] <;> split <;> decide
  rw [daysBeforeYear_succ hyear, dayNumber]
  dsimp only at hday hday' ⊢
  omega

/-- The days of the calendar are numbered up to its end. -/
theorem dayNumber_lt {date : Date} (hvalid : date.isValid) : date.dayNumber < dayCount := by
  have hyear : date.year ≤ 9999 := by
    simp only [isValid, Bool.and_eq_true, decide_eq_true_eq] at hvalid
    exact hvalid.1.1.1.1.2
  exact Nat.lt_of_lt_of_le (dayNumber_bounds hvalid).2
    (daysBeforeYear_le (Nat.succ_le_succ hyear))

end Date

namespace Clock

/-- A date of the calendar has a midnight. -/
theorem exists_midnight {date : Date} (hvalid : date.isValid) :
    ∃ clock, atTime? date 0 = some clock ∧ clock.ticks = date.dayNumber * fullDay := by
  have hday := Date.dayNumber_lt hvalid
  have hticks : 0 ≤ (date.dayNumber * fullDay + 0 : Int) ∧
      (date.dayNumber * fullDay + 0 : Int) < clockLimit := by
    rw [fullDay_eq, clockLimit_eq]
    omega
  refine ⟨⟨date.dayNumber * fullDay + 0, hticks.1, hticks.2⟩, ?_, Int.add_zero _⟩
  rw [atTime?, if_pos hvalid, ofTicks?, dif_pos hticks]

/-- A reading is on the day with its number. -/
theorem dayNumber_bounds (clock : Clock) :
    (clock.dayNumber : Int) * fullDay ≤ clock.ticks ∧
      clock.ticks < (clock.dayNumber + 1 : Int) * fullDay := by
  have hnumber : (clock.dayNumber : Int) = clock.ticks / fullDay :=
    Int.toNat_of_nonneg (Int.ediv_nonneg clock.notEarlier (by decide))
  rw [fullDay_eq] at hnumber ⊢
  omega

/-- A reading is in the year of its date. -/
theorem year_bounds (clock : Clock) :
    (daysBeforeYear clock.date.year : Int) * fullDay ≤ clock.ticks ∧
      clock.ticks < (daysBeforeYear (clock.date.year + 1) : Int) * fullDay := by
  obtain ⟨hlow, hhigh⟩ := clock.dayNumber_bounds
  obtain ⟨hfirst, hlast⟩ := Date.ofDayNumber_year clock.dayNumber
  rw [fullDay_eq] at hlow hhigh ⊢
  simp only [date]
  omega

/-- A reading comes before a midnight exactly when its day does. -/
theorem ticks_lt_midnight_iff (clock : Clock) (day : Nat) :
    clock.ticks < day * fullDay ↔ clock.dayNumber < day := by
  obtain ⟨hlow, hhigh⟩ := clock.dayNumber_bounds
  rw [fullDay_eq] at hlow hhigh ⊢
  omega

/-- The date of a reading has the number of its day. -/
theorem dayNumber_date (clock : Clock) : clock.date.dayNumber = clock.dayNumber :=
  Date.dayNumber_ofDayNumber _

end Clock

/-! ## Written dates -/

namespace Iso

/-- A number of four digits. -/
theorem padded_four {n : Nat} (hlow : 1000 ≤ n) (hhigh : n < 10000) :
    padded 4 n = [Nat.digitChar (n / 10 / 10 / 10), Nat.digitChar (n / 10 / 10 % 10),
      Nat.digitChar (n / 10 % 10), Nat.digitChar (n % 10)] := by
  rw [padded, Nat.toDigits_of_base_le (by decide) (by omega),
    Nat.toDigits_of_base_le (by decide) (show 10 ≤ n / 10 by omega),
    Nat.toDigits_of_base_le (by decide) (show 10 ≤ n / 10 / 10 by omega),
    Nat.toDigits_of_lt_base (show n / 10 / 10 / 10 < 10 by omega)]
  rfl

/-- Digits are read back. -/
theorem digitValue?_digitChar {n : Nat} (hn : n < 10) :
    Text.digitValue? (Nat.digitChar n) = some n := by
  interval_cases n <;> decide

/-- A padded number consists of digits. -/
theorem isDigit_of_mem_padded {width n : Nat} : ∀ c ∈ padded width n, c.isDigit = true := by
  intro c hc
  rcases List.mem_append.1 hc with hc | hc
  · rw [List.eq_of_mem_replicate hc]
    rfl
  · exact Nat.isDigit_of_mem_toDigits (by decide) (by decide) hc

/-- A date is written in digits and hyphens. -/
theorem mem_dateText {date : Date} : ∀ c ∈ dateText date, c.isDigit = true ∨ c = '-' := by
  intro c hc
  simp only [dateText, List.mem_append, List.mem_cons] at hc
  rcases hc with (hc | rfl | hc) | rfl | hc
  · exact .inl (isDigit_of_mem_padded c hc)
  · exact .inr rfl
  · exact .inl (isDigit_of_mem_padded c hc)
  · exact .inr rfl
  · exact .inl (isDigit_of_mem_padded c hc)

/-- A date is written without a slash. -/
theorem slash_not_mem_dateText (date : Date) : '/' ∉ dateText date := by
  intro hslash
  rcases mem_dateText '/' hslash with hdigit | hhyphen
  · exact absurd hdigit (by decide)
  · exact absurd hhyphen (by decide)

end Iso

namespace Day

theorem month?_padded {n : Nat} (hlow : 1 ≤ n) (hhigh : n ≤ 12) :
    month? (Iso.padded 2 n) = some n := by
  interval_cases n <;> decide

theorem day?_padded {n : Nat} (hlow : 1 ≤ n) (hhigh : n ≤ 31) :
    day? (Iso.padded 2 n) = some n := by
  interval_cases n <;> decide

theorem year?_padded {n : Nat} (hlow : 1000 ≤ n) (hhigh : n < 10000) :
    year? (Iso.padded 4 n) = some n := by
  rw [Iso.padded_four hlow hhigh, year?, Iso.digitValue?_digitChar (by omega),
    Iso.digitValue?_digitChar (by omega), Iso.digitValue?_digitChar (by omega),
    Iso.digitValue?_digitChar (by omega)]
  simp only [Option.bind_eq_bind, Option.bind_some, pure, Option.some.injEq]
  omega

/-- A day that is read is one of the calendar. -/
theorem isValid_of_read? {s : String} {date : Date} (hread : read? s = some date) :
    date.isValid := by
  unfold read? at hread
  simp only [Option.bind_eq_bind, Option.bind_eq_some_iff] at hread
  obtain ⟨year, -, hread⟩ := hread
  split at hread
  · obtain ⟨month, -, hread⟩ := Option.bind_eq_some_iff.1 hread
    split at hread
    · obtain ⟨day, -, hread⟩ := Option.bind_eq_some_iff.1 hread
      split at hread
      · cases hread
        assumption
      · cases hread
    · cases hread
  · cases hread

/-- A written date is read back. -/
theorem read?_dateText {date : Date} (hvalid : date.isValid) (hyear : 1000 ≤ date.year) :
    read? (String.ofList (Iso.dateText date)) = some date := by
  obtain ⟨year, month, day⟩ := date
  change 1000 ≤ year at hyear
  have hparts := hvalid
  simp only [Date.isValid, Bool.and_eq_true, decide_eq_true_eq] at hparts
  obtain ⟨⟨⟨⟨⟨-, hyear'⟩, hmonth⟩, hmonth'⟩, hday⟩, hday'⟩ := hparts
  have hlength : day ≤ 31 := by
    refine Nat.le_trans hday' ?_
    simp only [monthLength]
    split <;> first | omega | (split <;> omega)
  have hfour : (Iso.padded 4 year).length = 4 := by
    rw [Iso.padded_four hyear (by omega)]
    rfl
  have hhyphen : ∀ c ∈ Iso.padded 2 month, decide (c ≠ '-') = true := by
    intro c hc
    have hdigit := Iso.isDigit_of_mem_padded c hc
    rw [decide_eq_true_iff]
    rintro rfl
    exact absurd hdigit (by decide)
  have htext : Iso.dateText ⟨year, month, day⟩ =
      Iso.padded 4 year ++ '-' :: (Iso.padded 2 month ++ '-' :: Iso.padded 2 day) := by
    simp [Iso.dateText]
  rw [read?, String.toList_ofList, htext, List.take_left' hfour, List.drop_left' hfour,
    year?_padded hyear (by omega)]
  simp only [Option.bind_eq_bind, Option.bind_some, List.takeWhile_append_of_pos hhyphen,
    List.dropWhile_append_of_pos hhyphen]
  simp [month?_padded hmonth hmonth', day?_padded hday hlength, hvalid]

end Day

end Calendar

/-! ## Texts without letters -/

namespace Text

/-- A character between the blanks and the letters. -/
def IsPlain (c : Char) : Prop := 0x21 ≤ c.toNat ∧ c.toNat < 0x41

instance (c : Char) : Decidable (IsPlain c) := inferInstanceAs (Decidable (_ ∧ _))

/-- Such a character is its own lower case. -/
theorem lowerChar_of_plain {c : Char} (hplain : IsPlain c) : lowerChar c = c := by
  have hruns : ∀ run ∈ caseRuns, 0x41 ≤ run.first := by decide +kernel
  have hnone : caseRuns.find? (fun run => run.covers c.toNat) = none := by
    rw [List.find?_eq_none]
    intro run hrun hcovers
    have hfirst := hruns run hrun
    simp only [CaseRun.covers, Bool.and_eq_true, decide_eq_true_eq] at hcovers
    have hlast := hplain.2
    omega
  rw [lowerChar, hnone]

/-- A text of such characters is its own lower case. -/
theorem lower_of_plain {s : String} (hplain : ∀ c ∈ s.toList, IsPlain c) : lower s = s := by
  have hfrom : ∀ before cs, (∀ c ∈ cs, IsPlain c) → lowerFrom before cs = cs := by
    intro before cs hcs
    induction cs generalizing before with
    | nil => rfl
    | cons c rest ih =>
      obtain ⟨hc, hrest⟩ := List.forall_mem_cons.1 hcs
      have hsigma : c ≠ 'Σ' := by
        rintro rfl
        exact absurd hc.2 (by decide)
      have hdotted : c ≠ 'İ' := by
        rintro rfl
        exact absurd hc.2 (by decide)
      rw [lowerFrom, ih _ hrest, if_neg hsigma, if_neg hdotted, lowerChar_of_plain hc]
      rfl
  rw [lower, hfrom [] _ hplain, String.ofList_toList]

/-- Such a character is no white space. -/
theorem isBlank_of_plain {c : Char} (hplain : IsPlain c) : isBlank c = false := by
  obtain ⟨hlow, hhigh⟩ := hplain
  simp only [isBlank, Bool.or_eq_false_iff, Bool.and_eq_false_iff, decide_eq_false_iff_not]
  omega

/-- A text of such characters has nothing to trim. -/
theorem trim_of_plain {s : String} (hplain : ∀ c ∈ s.toList, IsPlain c) : trim s = s := by
  rw [trim, trimBy_of_kept fun c hc => isBlank_of_plain (hplain c hc), String.ofList_toList]

/-- Digits, hyphens and slashes are such characters. -/
theorem isPlain_of_isDigit {c : Char} (hc : c.isDigit = true ∨ c = '-' ∨ c = '/') : IsPlain c := by
  rcases hc with hdigit | rfl | rfl
  · obtain ⟨hlow, hhigh⟩ := Char.isDigit_iff_toNat.1 hdigit
    exact ⟨Nat.le_trans (by decide) hlow, Nat.lt_of_le_of_lt hhigh (by decide)⟩
  · decide
  · decide

end Text

end FlowDesk
