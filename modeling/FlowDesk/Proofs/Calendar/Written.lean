/-
# Written moments are read back

A moment is written with its date, its time of day and its offset, each in digits of a
fixed width.  A reader that takes some digits from the front takes exactly those of a
padded number (`Iso.digits_padded`); so it takes a written time of day apart into the parts
it was made of (`Iso.time?_timeText`), and finds the offset where the first sign stands.
What is read from the text of a moment is its reading and its offset (`Iso.read?_text`),
also when blanks are trimmed first, for there are none (`Moment.readLocal?_text`).
-/

import FlowDesk.Proofs.Calendar.Days
import FlowDesk.Proofs.Calendar.Within

namespace FlowDesk.Calendar

/-! ## Dates of clocks -/

namespace Date

/-- A day of a year, counted from the first of a month, has a date of that year. -/
theorem isValid_fromMonth {year : Nat} (hyear : 1 ≤ year) (hlast : year ≤ 9999)
    {monthsLeft : Nat} (hmonths : monthsLeft ≤ 11) {rest : Nat}
    (hrest : daysBeforeMonth year (12 - monthsLeft) + rest < if isLeap year then 366 else 365) :
    (fromMonth year monthsLeft rest).isValid := by
  induction monthsLeft generalizing rest with
  | zero =>
    have hdecember : daysBeforeMonth year 12 + 31 = if isLeap year then 366 else 365 := by
      simp only [daysBeforeMonth, monthLength]
      split <;> rfl
    rw [Nat.sub_zero, ← hdecember] at hrest
    have hlength : monthLength year 12 = 31 := rfl
    rw [fromMonth, isValid]
    simp only [hlength, Bool.and_eq_true, decide_eq_true_eq]
    omega
  | succ monthsLeft ih =>
    obtain ⟨month, hmonth⟩ : ∃ month, 12 - (monthsLeft + 1) = month + 1 :=
      ⟨10 - monthsLeft, by omega⟩
    have hnext : 12 - monthsLeft = month + 1 + 1 := by omega
    have hlength : daysBeforeMonth year (month + 1 + 1) =
        daysBeforeMonth year (month + 1) + monthLength year (month + 1) := rfl
    unfold fromMonth
    dsimp only
    rw [hmonth] at hrest ⊢
    split
    · simp only [isValid, Bool.and_eq_true, decide_eq_true_eq]
      omega
    · apply ih (by omega)
      rw [hnext, hlength]
      omega

/-- A day of the calendar has a date of the calendar. -/
theorem isValid_ofDayNumber {day : Nat} (hday : day < dayCount) : (ofDayNumber day).isValid := by
  have hyear := ofDayNumber_year day
  have hnumber := dayNumber_ofDayNumber day
  obtain ⟨year, rest, hpositive, hdate⟩ : ∃ year rest, 1 ≤ year ∧
      ofDayNumber day = fromMonth year 11 rest :=
    ⟨_, _, Nat.le_add_left 1 _, rfl⟩
  have hjanuary : daysBeforeMonth year (12 - 11) = 0 := rfl
  rw [hdate, fromMonth_year] at hyear
  rw [hdate, dayNumber_fromMonth year (Nat.le_refl 11), hjanuary] at hnumber
  rw [hdate]
  have hlast : year ≤ 9999 := by
    have hend : daysBeforeYear 10000 = dayCount := by decide
    refine Nat.le_of_not_lt fun hlater => ?_
    have hle := daysBeforeYear_le (show 10000 ≤ year from hlater)
    omega
  apply isValid_fromMonth hpositive hlast (Nat.le_refl 11)
  rw [daysBeforeYear_succ hpositive] at hyear
  omega

end Date

/-- A clock shows a date of the calendar. -/
theorem Clock.date_isValid (clock : Clock) : clock.date.isValid := by
  apply Date.isValid_ofDayNumber
  have hlow := clock.dayNumber_bounds.1
  have hhigh := clock.notLater
  rw [fullDay_eq] at hlow
  rw [clockLimit_eq] at hhigh
  omega

/-! ## Digits of a fixed width -/

namespace Iso

/-- Digits are read to the number they stand for, whatever follows. -/
theorem digits_append {run : List Char} (hrun : ∀ c ∈ run, c.isDigit = true) (total : Nat)
    (rest : List Char) :
    digits total run.length (run ++ rest) = some (Nat.ofDigitChars 10 run total, rest) := by
  induction run generalizing total with
  | nil => rfl
  | cons c run ih =>
    obtain ⟨hc, hrun⟩ := List.forall_mem_cons.1 hrun
    have hvalue : Text.asciiDigit? c = some (c.toNat - 48) := by simp [Text.asciiDigit?, hc]
    rw [List.length_cons, List.cons_append, digits, hvalue, Option.bind_some, ih hrun,
      Nat.ofDigitChars_cons]
    rfl

/-- A number with no more digits than the width is padded to the width. -/
theorem length_padded {width n : Nat} (hwidth : 0 < width) (hn : n < 10 ^ width) :
    (padded width n).length = width := by
  have hlength := (Nat.length_toDigits_le_iff (by decide) hwidth).2 hn
  rw [padded, List.length_append, List.length_replicate]
  omega

/-- A padded number is read back, whatever follows. -/
theorem digits_padded {width n : Nat} (hwidth : 0 < width) (hn : n < 10 ^ width)
    (rest : List Char) : digits 0 width (padded width n ++ rest) = some (n, rest) := by
  have hdigits : ∀ c ∈ padded width n, c.isDigit = true := isDigit_of_mem_padded
  have hread := digits_append hdigits 0 rest
  rw [length_padded hwidth hn] at hread
  rw [hread, padded, Nat.ofDigitChars_append, Nat.ofDigitChars_replicate_zero, Nat.mul_zero,
    Nat.ofDigitChars_ten_toDigits]

/-! ## Dates -/

/-- A padded number has digits. -/
theorem padded_ne_nil (width n : Nat) : padded width n ≠ [] := fun hnone =>
  Nat.toDigits_ne_nil (List.append_eq_nil_iff.1 hnone).2

/-- A padded number begins with no other character than a digit. -/
theorem padded_append_ne {width n : Nat} {c : Char} (hc : c.isDigit = false)
    (rest more : List Char) : padded width n ++ rest ≠ c :: more := by
  cases hpadded : padded width n with
  | nil => exact absurd hpadded (padded_ne_nil width n)
  | cons d ds =>
    rintro heq
    cases heq
    have hdigit := isDigit_of_mem_padded c (hpadded ▸ List.mem_cons_self)
    exact absurd (hdigit.symm.trans hc) (by decide)

/-- The parts of a date fit in their widths. -/
theorem lt_of_isValid {date : Date} (hvalid : date.isValid) :
    date.year < 10 ^ 4 ∧ date.month < 10 ^ 2 ∧ date.day < 10 ^ 2 := by
  obtain ⟨year, month, day⟩ := date
  simp only [Date.isValid, Bool.and_eq_true, decide_eq_true_eq] at hvalid
  have hlength : monthLength year month ≤ 31 := by
    simp only [monthLength]
    split <;> first | omega | (split <;> omega)
  dsimp only
  omega

/-- A written date has ten characters, and a text that it begins is seen to begin with a
date of ten characters. -/
theorem dateLength?_dateText {date : Date} (hvalid : date.isValid) (rest : List Char) :
    (dateText date).length = 10 ∧ dateLength? (dateText date ++ rest) = some 10 := by
  obtain ⟨hyear, hmonth, hday⟩ := lt_of_isValid hvalid
  have hyear := length_padded (show 0 < 4 by decide) hyear
  have hmonth := length_padded (show 0 < 2 by decide) hmonth
  have hday := length_padded (show 0 < 2 by decide) hday
  have hlength : (dateText date).length = 10 := by
    simp [dateText, hyear, hmonth, hday]
  refine ⟨hlength, ?_⟩
  have hfifth : (dateText date ++ rest)[4]? = some '-' := by
    simp [dateText, hyear]
  have hsixth : (dateText date ++ rest)[5]? ≠ some 'W' := by
    rw [List.getElem?_append_left (by omega)]
    intro hweek
    rcases mem_dateText _ (List.mem_of_getElem? hweek) with hdigit | hhyphen
    · exact absurd hdigit (by decide)
    · exact absurd hhyphen (by decide)
  have hlong : (dateText date ++ rest).length ≠ 7 := by
    rw [List.length_append]
    omega
  rw [dateLength?, if_neg hlong, if_pos hfifth, if_neg hsixth]

/-- A written date is read back. -/
theorem date?_dateText {date : Date} (hvalid : date.isValid) :
    date? (dateText date) = some (date.dayNumber : Int) := by
  obtain ⟨year, month, day⟩ := date
  obtain ⟨hyear, hmonth, hday⟩ := lt_of_isValid hvalid
  have htext : dateText ⟨year, month, day⟩ =
      padded 4 year ++ '-' :: (padded 2 month ++ '-' :: (padded 2 day ++ [])) := by
    simp [dateText]
  have hyear := digits_padded (by decide) hyear
    ('-' :: (padded 2 month ++ '-' :: (padded 2 day ++ [])))
  have hmonth := digits_padded (by decide) hmonth ('-' :: (padded 2 day ++ []))
  have hday := digits_padded (by decide) hday []
  rw [htext, date?, hyear]
  simp only [Option.bind_eq_bind, Option.bind_some, List.head?_cons, List.drop_one, List.tail_cons,
    if_true, decide_true]
  split
  · rename_i hweek
    exact absurd hweek (padded_append_ne (by decide) _ _)
  · rw [hmonth, Option.bind_some, hyphen, if_pos rfl, Option.bind_some, hday, Option.bind_some,
      if_pos hvalid]
    rfl

/-! ## Times of day -/

/-- The parts of a time of day. -/
def WrittenTime.of (ticks : Int) : WrittenTime :=
  ⟨(ticks / hour).toNat, (ticks % hour / minute).toNat, (ticks % minute / second).toNat,
    (ticks % second).toNat, false⟩

/-- The parts of a time of day make it up. -/
theorem WrittenTime.ticks_of {ticks : Int} (hticks : 0 ≤ ticks) :
    (WrittenTime.of ticks).ticks = ticks := by
  simp only [WrittenTime.ticks, WrittenTime.of, hour, minute, second]
  omega

/-- The parts of a time of day are within their bounds. -/
theorem WrittenTime.bounds_of {ticks : Int} (hticks : 0 ≤ ticks) (hday : ticks < fullDay) :
    (of ticks).hours < 24 ∧ (of ticks).minutes < 60 ∧ (of ticks).seconds < 60 ∧
      (of ticks).micros < 1000000 := by
  rw [fullDay_eq] at hday
  simp only [of, hour, minute, second]
  omega

/-- A time of day is one of a day. -/
theorem WrittenTime.isValid_of {ticks : Int} (hticks : 0 ≤ ticks) (hday : ticks < fullDay) :
    (of ticks).isValid = true := by
  obtain ⟨hhours, hminutes, hseconds, -⟩ := bounds_of hticks hday
  simp [isValid, hhours, hminutes, hseconds]

/-- Two digits before a colon are one part, and the next comes after it. -/
theorem time?_colon {n : Nat} (hn : n < 10 ^ 2) (parts : List Nat) (missing : Nat)
    {more : List Char} (hmore : more ≠ []) :
    time? parts true (missing + 1) (padded 2 n ++ ':' :: more) =
      time? (parts ++ [n]) true missing more := by
  obtain ⟨c, rest, rfl⟩ := List.exists_cons_of_ne_nil hmore
  simp only [time?, digits_padded (by decide) hn, Option.bind_some]
  simp

/-- Two digits at the end are the last part. -/
theorem time?_end {n : Nat} (hn : n < 10 ^ 2) (parts : List Nat) (colons : Bool) (missing : Nat) :
    time? parts colons (missing + 1) (padded 2 n) = some (.ofParts (parts ++ [n]) 0 false) := by
  have hdigits := digits_padded (by decide) hn []
  rw [List.append_nil] at hdigits
  rw [time?, hdigits, Option.bind_some]

/-- Two digits before a point are the last part, and six after it a fraction. -/
theorem time?_point {n micros : Nat} (hn : n < 10 ^ 2) (hmicros : micros < 10 ^ 6)
    (parts : List Nat) (colons : Bool) (missing : Nat) :
    time? parts colons (missing + 1) (padded 2 n ++ '.' :: padded 6 micros) =
      some (.ofParts (parts ++ [n]) micros false) := by
  have hlength := length_padded (by decide) hmicros
  have hdigits := digits_padded (by decide) hmicros []
  rw [List.append_nil] at hdigits
  have hfraction : ∀ parts, fraction? parts (padded 6 micros) =
      some (.ofParts parts micros false) := by
    intro parts
    rw [fraction?, hlength, Nat.min_self]
    dsimp only
    rw [hdigits]
    simp [tenTo, isEnd]
  obtain ⟨c, rest, hrest⟩ := List.exists_cons_of_ne_nil (padded_ne_nil 6 micros)
  rw [time?, digits_padded (by decide) hn, Option.bind_some]
  rw [hrest]
  simp [← hrest, hfraction]

/-- A written time of day: hours and minutes, and more only where there is more. -/
theorem time?_hoursAndMinutes {ticks : Int} (hticks : 0 ≤ ticks) (hday : ticks < fullDay)
    {more : List Char} (hmore : more ≠ []) :
    time? [] true 3 (hoursAndMinutes ticks ++ ':' :: more) =
      time? [(WrittenTime.of ticks).hours, (WrittenTime.of ticks).minutes] true 1 more := by
  obtain ⟨hhours, hminutes, -, -⟩ := WrittenTime.bounds_of hticks hday
  have htext : hoursAndMinutes ticks ++ ':' :: more =
      padded 2 (WrittenTime.of ticks).hours ++
        ':' :: (padded 2 (WrittenTime.of ticks).minutes ++ ':' :: more) := by
    simp [hoursAndMinutes, WrittenTime.of]
  rw [htext, time?_colon (by omega) [] 2 (by simp), time?_colon (by omega) _ 1 hmore]
  rfl

/-- Seconds, and a fraction only where there is one. -/
def secondsText (ticks : Int) : List Char :=
  padded 2 (WrittenTime.of ticks).seconds ++
    if (WrittenTime.of ticks).micros = 0 then [] else '.' :: padded 6 (WrittenTime.of ticks).micros

/-- A time of day, down to the seconds. -/
def timeText (ticks : Int) : List Char := hoursAndMinutes ticks ++ ':' :: secondsText ticks

/-- A time of day that is written down to the seconds is read back. -/
theorem time?_timeText {ticks : Int} (hticks : 0 ≤ ticks) (hday : ticks < fullDay) :
    time? [] true 3 (timeText ticks) = some (WrittenTime.of ticks) := by
  obtain ⟨-, -, hseconds, hmicros⟩ := WrittenTime.bounds_of hticks hday
  have hsome : secondsText ticks ≠ [] := fun hnone =>
    padded_ne_nil _ _ (List.append_eq_nil_iff.1 hnone).1
  rw [timeText, time?_hoursAndMinutes hticks hday hsome, secondsText]
  split
  · rename_i hnone
    rw [List.append_nil, time?_end (by omega), ← hnone]
    rfl
  · rw [time?_point (by omega) (by omega)]
    rfl

/-- A time of day that is written down to the minutes is read back when there is no more
of it. -/
theorem time?_minutes {ticks : Int} (hticks : 0 ≤ ticks) (hday : ticks < fullDay)
    (hseconds : (WrittenTime.of ticks).seconds = 0) (hmicros : (WrittenTime.of ticks).micros = 0) :
    time? [] true 3 (hoursAndMinutes ticks) = some (WrittenTime.of ticks) := by
  obtain ⟨hhours, hminutes, -, -⟩ := WrittenTime.bounds_of hticks hday
  have htext : hoursAndMinutes ticks =
      padded 2 (WrittenTime.of ticks).hours ++ ':' :: padded 2 (WrittenTime.of ticks).minutes := rfl
  have hparts : WrittenTime.of ticks =
      ⟨(WrittenTime.of ticks).hours, (WrittenTime.of ticks).minutes, 0, 0, false⟩ := by
    simp only [WrittenTime.of] at hseconds hmicros ⊢
    rw [hseconds, hmicros]
  rw [htext, time?_colon (by omega) [] 2 (padded_ne_nil _ _), time?_end (by omega), hparts]
  rfl

/-- Hours and minutes are written in digits and a colon. -/
theorem mem_hoursAndMinutes {ticks : Int} :
    ∀ c ∈ hoursAndMinutes ticks, c.isDigit = true ∨ c = ':' := by
  intro c hc
  rcases List.mem_append.1 hc with hc | hc
  · exact .inl (isDigit_of_mem_padded c hc)
  · rcases List.mem_cons.1 hc with rfl | hc
    · exact .inr rfl
    · exact .inl (isDigit_of_mem_padded c hc)

/-- Seconds are written in digits and a point. -/
theorem mem_secondsText {ticks : Int} :
    ∀ c ∈ secondsText ticks, c.isDigit = true ∨ c = '.' := by
  intro c hc
  rcases List.mem_append.1 hc with hc | hc
  · exact .inl (isDigit_of_mem_padded c hc)
  · split at hc
    · cases hc
    · rcases List.mem_cons.1 hc with rfl | hc
      · exact .inr rfl
      · exact .inl (isDigit_of_mem_padded c hc)

/-- A time of day is written in digits, colons and a point. -/
theorem mem_timeText {ticks : Int} :
    ∀ c ∈ timeText ticks, c.isDigit = true ∨ c = ':' ∨ c = '.' := by
  intro c hc
  rcases List.mem_append.1 hc with hc | hc
  · exact (mem_hoursAndMinutes c hc).imp_right .inl
  · rcases List.mem_cons.1 hc with rfl | hc
    · exact .inr (.inl rfl)
    · exact (mem_secondsText c hc).imp_right .inr

/-! ## Offsets -/

/-- The sign of an offset. -/
def signOf (offset : Int) : Char := if offset < 0 then '-' else '+'

/-- An offset is written with its sign, and with its size in digits, colons and a point;
the size is read back. -/
theorem offsetText_spec {offset : Int} (hoffset : IsOffset offset) :
    ∃ size, offsetText offset = signOf offset :: size ∧
      (∀ c ∈ size, c.isDigit = true ∨ c = ':' ∨ c = '.') ∧
      time? [] true 3 size = some (WrittenTime.of offset.natAbs) := by
  have hsize : (0 : Int) ≤ offset.natAbs := Int.natCast_nonneg _
  have hday : (offset.natAbs : Int) < fullDay := by
    obtain ⟨hlow, hhigh⟩ := hoffset
    omega
  unfold offsetText
  dsimp only
  generalize (offset.natAbs : Int) = ticks at hsize hday ⊢
  by_cases hshort : (WrittenTime.of ticks).seconds = 0 ∧ (WrittenTime.of ticks).micros = 0
  · refine ⟨hoursAndMinutes ticks, ?_, fun c hc => (mem_hoursAndMinutes c hc).imp_right .inl,
      time?_minutes hsize hday hshort.1 hshort.2⟩
    simp only [WrittenTime.of] at hshort
    rw [if_pos hshort, if_pos hshort.2, List.append_nil, List.append_nil]
    rfl
  · refine ⟨timeText ticks, ?_, mem_timeText, time?_timeText hsize hday⟩
    simp only [WrittenTime.of] at hshort
    rw [if_neg hshort]
    simp [signOf, timeText, secondsText, WrittenTime.of]

/-- No character of a time of day begins an offset. -/
theorem not_startsOffset_timeText {ticks : Int} :
    ∀ c ∈ timeText ticks, (!startsOffset c) = true := by
  intro c hc
  rcases mem_timeText c hc with hdigit | rfl | rfl
  · by_contra hstarts
    simp only [startsOffset, Bool.not_eq_true', Bool.not_eq_false, Bool.or_eq_true,
      decide_eq_true_eq] at hstarts
    rcases hstarts with (rfl | rfl) | rfl <;> exact absurd hdigit (by decide)
  · rfl
  · rfl

/-- The sign of an offset begins it. -/
theorem startsOffset_signOf (offset : Int) : startsOffset (signOf offset) = true := by
  unfold signOf
  split <;> rfl

/-- An offset is its size with its sign. -/
theorem signed_signOf (offset : Int) :
    (if signOf offset = '-' then -(offset.natAbs : Int) else offset.natAbs) = offset := by
  by_cases hneg : offset < 0
  · rw [signOf, if_pos hneg, if_pos rfl]
    omega
  · rw [signOf, if_neg hneg, if_neg (by decide)]
    omega

/-- A time of day ends where the sign of an offset stands. -/
theorem split_timeText (ticks offset : Int) (size : List Char) :
    (timeText ticks ++ signOf offset :: size).takeWhile (fun c => !startsOffset c) =
        timeText ticks ∧
      (timeText ticks ++ signOf offset :: size).dropWhile (fun c => !startsOffset c) =
        signOf offset :: size := by
  have hstop := startsOffset_signOf offset
  constructor
  · rw [List.takeWhile_append_of_pos not_startsOffset_timeText,
      List.takeWhile_cons_of_neg (by simp [hstop]), List.append_nil]
  · rw [List.dropWhile_append_of_pos not_startsOffset_timeText,
      List.dropWhile_cons_of_neg (by simp [hstop])]

/-- A time of day and an offset are read back; of an offset of less than a second nothing
is left. -/
theorem timeAndOffset?_written {ticks offset : Int} (hticks : 0 ≤ ticks) (hday : ticks < fullDay)
    (hoffset : IsOffset offset) :
    timeAndOffset? (timeText ticks ++ offsetText offset) =
      some (ticks, some (if (offset.natAbs : Int) < second then 0 else offset)) := by
  obtain ⟨size, htext, -, hsize⟩ := offsetText_spec hoffset
  obtain ⟨htake, hdrop⟩ := split_timeText ticks offset size
  have htime := time?_timeText hticks hday
  have hvalid := WrittenTime.isValid_of hticks hday
  rw [timeAndOffset?, htext, htake, hdrop]
  simp only [Option.bind_eq_bind, htime, Option.bind_some, hvalid, Bool.not_true,
    Bool.false_eq_true, if_false, WrittenTime.ticks_of hticks]
  split
  · rename_i hnone
    cases hnone
  · rename_i hzulu
    have hsign : signOf offset ≠ 'Z' := by
      unfold signOf
      split <;> decide
    exact absurd (List.cons.inj hzulu).1 hsign
  · rename_i hcons
    obtain ⟨rfl, rfl⟩ := List.cons.inj hcons
    have hstray : (WrittenTime.of offset.natAbs).stray = false := rfl
    have hticks' : (WrittenTime.of offset.natAbs).ticks = offset.natAbs :=
      WrittenTime.ticks_of (Int.natCast_nonneg _)
    have hfits : ¬ ((WrittenTime.of offset.natAbs).stray ||
        decide (fullDay ≤ (WrittenTime.of offset.natAbs).ticks)) = true := by
      obtain ⟨hlow, hhigh⟩ := hoffset
      rw [hstray, hticks', Bool.false_or, decide_eq_true_eq]
      omega
    rw [hsize, Option.bind_some, if_neg hfits, hticks', signed_signOf]
    split <;> rfl

/-! ## Moments -/

/-- The text of a moment: its date, its time of day and its offset. -/
theorem toList_text (moment : Moment) : (text moment).toList =
    dateText moment.clock.date ++
      'T' :: (timeText moment.clock.timeOfDay ++ offsetText moment.offset) := by
  simp [text, clockText, timeText, secondsText, WrittenTime.of]

/-- **A written moment is read back**, with its reading and its offset; of an offset of less
than a second nothing is left. -/
theorem read?_text {moment : Moment} (hoffset : IsOffset moment.offset) :
    read? (text moment) = some (moment.clock,
      some (if (moment.offset.natAbs : Int) < second then 0 else moment.offset)) := by
  obtain ⟨hdate, hlength⟩ := dateLength?_dateText moment.clock.date_isValid
    ('T' :: (timeText moment.clock.timeOfDay ++ offsetText moment.offset))
  have hfull : 0 < fullDay := by decide
  have htime := timeAndOffset?_written (Int.emod_nonneg moment.clock.ticks (by decide))
    (Int.emod_lt_of_pos moment.clock.ticks hfull) hoffset
  have hticks : (moment.clock.date.dayNumber : Int) * fullDay + moment.clock.timeOfDay =
      moment.clock.ticks := by
    have hnumber : (moment.clock.dayNumber : Int) = moment.clock.ticks / fullDay :=
      Int.toNat_of_nonneg (Int.ediv_nonneg moment.clock.notEarlier (by decide))
    rw [Clock.dayNumber_date, hnumber]
    exact Int.ediv_mul_add_emod _ _
  have hclock : Clock.ofTicks? moment.clock.ticks = some moment.clock :=
    dif_pos ⟨moment.clock.notEarlier, moment.clock.notLater⟩
  rw [read?, toList_text]
  simp only [hlength, Option.bind_eq_bind, Option.bind_some, List.take_left' hdate,
    List.drop_left' hdate, date?_dateText moment.clock.date_isValid]
  rw [Clock.timeOfDay, htime, Option.bind_some, ← Clock.timeOfDay, hticks, hclock, Option.map_some]

/-- A moment is written without blanks. -/
theorem isBlank_of_mem_text {moment : Moment} (hoffset : IsOffset moment.offset) :
    ∀ c ∈ (text moment).toList, Text.isBlank c = false := by
  obtain ⟨size, htext, hsize, -⟩ := offsetText_spec hoffset
  have hdigit : ∀ c : Char, c.isDigit = true → Text.isBlank c = false := fun c hc =>
    Text.isBlank_of_plain (Text.isPlain_of_isDigit (.inl hc))
  have htime : ∀ c : Char, c.isDigit = true ∨ c = ':' ∨ c = '.' → Text.isBlank c = false := by
    rintro c (hc | rfl | rfl)
    · exact hdigit c hc
    · rfl
    · rfl
  intro c hc
  rw [toList_text, htext, List.mem_append, List.mem_cons, List.mem_append, List.mem_cons] at hc
  rcases hc with hdate | rfl | hclock | rfl | hsign
  · rcases mem_dateText c hdate with hc | rfl
    · exact hdigit c hc
    · rfl
  · rfl
  · exact htime c (mem_timeText c hclock)
  · unfold signOf
    split <;> rfl
  · exact htime c (hsize c hsign)

end Iso

namespace Moment

/-- The text of a moment is not empty. -/
theorem text_ne_empty (moment : Moment) : Iso.text moment ≠ "" := by
  intro hempty
  have hlist := Iso.toList_text moment
  rw [hempty] at hlist
  exact absurd hlist.symm (by simp)

/-- The text of a moment with an offset of whole seconds is read back to its reading, at
this offset. -/
theorem readLocal?_text {moment : Moment} (hoffset : IsOffset moment.offset)
    (hwhole : moment.offset = 0 ∨ second ≤ moment.offset.natAbs) (region : Region) :
    readLocal? region (Iso.text moment) = some ⟨moment.clock, .constant moment.offset, false⟩ := by
  have hkept : (if (moment.offset.natAbs : Int) < second then 0 else moment.offset) =
      moment.offset := by
    rcases hwhole with hzero | hsecond
    · rw [hzero]
      rfl
    · exact if_neg (Int.not_lt.2 hsecond)
  rw [readLocal?, Text.trim, Text.trimBy_of_kept (Iso.isBlank_of_mem_text hoffset),
    String.ofList_toList, read?, Iso.read?_text hoffset, hkept]
  rfl

end Moment

end FlowDesk.Calendar
