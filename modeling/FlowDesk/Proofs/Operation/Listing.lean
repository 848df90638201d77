/-
# Lists of meetings by date

Meetings are asked for by days, and shown with local dates.  The two are worked
out in different ways: a meeting is picked by comparing its start with the
midnights around the days, and its date is read from the local clock.  They agree
all the same, whatever offset the start was written with and although clocks
change: a list holds exactly those meetings of the caller that are shown on one
of the days asked for (`listing_follows_dates`).
-/

import FlowDesk.Operation.Standard
import FlowDesk.Proofs.Book.Sound
import FlowDesk.Proofs.Operation.Promises
import FlowDesk.Proofs.Operation.Ranges
import Mathlib.Data.List.TakeWhile

namespace FlowDesk

open Calendar

/-! ## What is asked for -/

/-- A date of the years in which the rules of the bundled regions have not changed. -/
def Calendar.Date.IsModern (date : Date) : Prop :=
  date.isValid ∧ 2007 ≤ date.year ∧ date.year ≤ 9998

/-- A reading of a clock in these years. -/
def Calendar.Clock.IsModern (clock : Clock) : Prop :=
  2007 ≤ clock.date.year ∧ clock.date.year ≤ 9998

instance (clock : Clock) : Decidable clock.IsModern := inferInstanceAs (Decidable (_ ∧ _))

namespace Range

/-- What an expression asks for on a day: the days from a first one to a last
one. -/
inductive Asks (today : Nat) : String → Nat → Nat → Prop
  | today : Asks today "today" today today
  | tomorrow : Asks today "tomorrow" (today + 1) (today + 1)
  | week : Asks today "week" today (today + 6)
  | month : Asks today "month" today (today + 29)
  | day {date : Date} (hdate : date.IsModern) :
    Asks today (String.ofList (Iso.dateText date)) date.dayNumber date.dayNumber
  | days {first last : Date} (hfirst : first.IsModern) (hlast : last.IsModern)
    (horder : first.dayNumber ≤ last.dayNumber) :
    Asks today (String.ofList (Iso.dateText first ++ '/' :: Iso.dateText last))
      first.dayNumber last.dayNumber

/-- A written date has neither blanks nor letters. -/
theorem isPlain_dateText (date : Date) : ∀ c ∈ Iso.dateText date, Text.IsPlain c := by
  intro c hc
  rcases Iso.mem_dateText c hc with hdigit | hhyphen
  · exact Text.isPlain_of_isDigit (.inl hdigit)
  · exact Text.isPlain_of_isDigit (.inr (.inl hhyphen))

/-- A written date is read back, trimmed or not. -/
theorem read?_trim_dateText {date : Date} (hdate : date.IsModern) :
    Day.read? (Text.trim (String.ofList (Iso.dateText date))) = some date := by
  have hplain : ∀ c ∈ (String.ofList (Iso.dateText date)).toList, Text.IsPlain c := by
    simpa using isPlain_dateText date
  rw [Text.trim_of_plain hplain]
  exact Day.read?_dateText hdate.1 (Nat.le_trans (by decide) hdate.2.1)

/-- An expression is cut at the slash after a written date, if there is one. -/
theorem parts_dateText (date : Date) (rest : List Char) :
    parts (String.ofList (Iso.dateText date)) = (String.ofList (Iso.dateText date), "") ∧
      parts (String.ofList (Iso.dateText date ++ '/' :: rest)) =
        (String.ofList (Iso.dateText date), String.ofList rest) := by
  have hslash : ∀ c ∈ Iso.dateText date, decide (c ≠ '/') = true := by
    intro c hc
    rw [decide_eq_true_iff]
    rintro rfl
    exact Iso.slash_not_mem_dateText date hc
  constructor
  · rw [parts, String.toList_ofList, List.takeWhile_eq_self_iff.2 hslash,
      List.dropWhile_eq_nil_iff.2 hslash]
    rfl
  · rw [parts, String.toList_ofList, List.takeWhile_append_of_pos hslash,
      List.dropWhile_append_of_pos hslash]
    simp

/-- A written date names its day. -/
theorem names_day {date : Date} (hdate : date.IsModern) :
    Names (String.ofList (Iso.dateText date)) date date := by
  have hparts := (parts_dateText date []).1
  have hread := read?_trim_dateText hdate
  refine ⟨?_, ?_⟩
  · rw [hparts]
    exact hread
  · rw [lastPart, hparts, if_pos rfl]
    exact hread

/-- Two written dates with a slash between them name the days between them. -/
theorem names_days {first last : Date} (hfirst : first.IsModern) (hlast : last.IsModern) :
    Names (String.ofList (Iso.dateText first ++ '/' :: Iso.dateText last)) first last := by
  have hparts := (parts_dateText first (Iso.dateText last)).2
  have hsecond : String.ofList (Iso.dateText last) ≠ "" := by
    have hnone : Day.read? (Text.trim "") = none := by decide +kernel
    intro hempty
    have hread := read?_trim_dateText hlast
    rw [hempty, hnone] at hread
    cases hread
  refine ⟨?_, ?_⟩
  · rw [hparts]
    exact read?_trim_dateText hfirst
  · rw [lastPart, hparts, if_neg hsecond]
    exact read?_trim_dateText hlast

/-- What is asked for in plain characters is read as it is written. -/
theorem key_of_plain {cs : List Char} (hplain : ∀ c ∈ cs, Text.IsPlain c) :
    Text.lower (Text.trim (String.ofList cs)) = String.ofList cs := by
  have hplain' : ∀ c ∈ (String.ofList cs).toList, Text.IsPlain c := by simpa using hplain
  rw [Text.trim_of_plain hplain', Text.lower_of_plain hplain']

/-- The days of a modern date end before the calendar does. -/
theorem dayNumber_bounds_of_modern {date : Date} (hdate : date.IsModern) :
    daysBeforeYear 2007 ≤ date.dayNumber ∧ date.dayNumber + 1 < dayCount := by
  obtain ⟨hvalid, hfirst, hlast⟩ := hdate
  obtain ⟨hlow, hhigh⟩ := Date.dayNumber_bounds hvalid
  refine ⟨Nat.le_trans (daysBeforeYear_le hfirst) hlow, ?_⟩
  have hnext := daysBeforeYear_le (show date.year + 1 ≤ 9999 from Nat.succ_le_succ hlast)
  have hend : daysBeforeYear 9999 + 1 < dayCount := by decide
  omega

variable {region : Region} {now : Moment}

/-- Days that are named in their order are those that an expression stands for. -/
theorem resolve_of_names {key : String} {first last : Date} (hnames : Names key first last)
    (horder : first.dayNumber ≤ last.dayNumber) (hlast : last.IsModern) :
    ∃ range, resolve region now key = .ok range ∧
      range.IsDays region first.dayNumber (last.dayNumber + 1) := by
  have hkey : key ∉ keywords := fun hmem => not_names_of_mem_keywords hmem first last hnames
  rw [resolve_of_not_mem region now hkey]
  exact (explicit_of_names region hnames).2.1 horder (dayNumber_bounds_of_modern hlast).2

/-- What is asked for is what an expression stands for. -/
theorem Asks.resolve {expression : String} {first last : Nat}
    (hasks : Asks now.clock.dayNumber expression first last) (hzone : now.zone = .region region)
    (hend : now.clock.dayNumber + 30 < dayCount) :
    ∃ range, resolve region now (Text.lower (Text.trim expression)) = .ok range ∧
      range.IsDays region first (last + 1) := by
  have hkeyword : ∀ word ∈ keywords, Text.lower (Text.trim word) = word := by decide +kernel
  cases hasks with
  | today =>
    rw [hkeyword "today" (by decide)]
    exact days_spec hzone 0 1 "for today" (by omega)
  | tomorrow =>
    rw [hkeyword "tomorrow" (by decide)]
    exact days_spec hzone 1 1 "for tomorrow" (by omega)
  | week =>
    rw [hkeyword "week" (by decide)]
    exact days_spec hzone 0 7 "in the next 7 days" (by omega)
  | month =>
    rw [hkeyword "month" (by decide)]
    exact days_spec hzone 0 30 "in the next 30 days" (by omega)
  | @day date hdate =>
    rw [key_of_plain (isPlain_dateText date)]
    exact resolve_of_names (names_day hdate) (Nat.le_refl _) hdate
  | @days first last hfirst hlast horder =>
    have hplain : ∀ c ∈ Iso.dateText first ++ '/' :: Iso.dateText last, Text.IsPlain c := by
      intro c hc
      rcases List.mem_append.1 hc with hc | hc
      · exact isPlain_dateText first c hc
      · rcases List.mem_cons.1 hc with rfl | hc
        · decide
        · exact isPlain_dateText last c hc
    rw [key_of_plain hplain]
    exact resolve_of_names (names_days hfirst hlast) horder hlast

/-- What is asked for begins no earlier than December 2006, if today is no earlier. -/
theorem Asks.daysBeforeYear_le {today : Nat} {expression : String} {first last : Nat}
    (hasks : Asks today expression first last) (htoday : daysBeforeYear 2007 ≤ today + 31) :
    daysBeforeYear 2007 ≤ first + 31 := by
  cases hasks with
  | today => exact htoday
  | tomorrow => omega
  | week => exact htoday
  | month => exact htoday
  | day hdate => exact Nat.le_add_right_of_le (dayNumber_bounds_of_modern hdate).1
  | days hfirst hlast horder =>
    exact Nat.le_add_right_of_le (dayNumber_bounds_of_modern hfirst).1

/-- What is asked for ends no earlier than it begins. -/
theorem Asks.le {today : Nat} {expression : String} {first last : Nat}
    (hasks : Asks today expression first last) : first ≤ last := by
  cases hasks with
  | today => exact Nat.le_refl _
  | tomorrow => exact Nat.le_refl _
  | week => exact Nat.le_add_right _ _
  | month => exact Nat.le_add_right _ _
  | day hdate => exact Nat.le_refl _
  | days hfirst hlast horder => exact horder

end Range

/-! ## What is shown -/

namespace Calendar

/-- A reading of modern years is far from both ends of the calendar. -/
theorem Clock.IsModern.isInner {clock : Clock} (hmodern : clock.IsModern) : clock.IsInner :=
  ⟨Nat.le_trans (by decide) hmodern.1, hmodern.2⟩

/-- A reading of modern years comes after all that is before them. -/
theorem Clock.IsModern.le_ticks {clock : Clock} (hmodern : clock.IsModern) :
    daysBeforeYear 2007 * fullDay ≤ clock.ticks := by
  have hyear : (daysBeforeYear 2007 : Int) ≤ daysBeforeYear clock.date.year :=
    Int.ofNat_le.2 (daysBeforeYear_le hmodern.1)
  exact Int.le_trans (Int.mul_le_mul_of_nonneg_right hyear (by decide)) clock.year_bounds.1

/-- A modern moment is shown in every region, no earlier than December 2006. -/
theorem Moment.daysBeforeYear_le_shown {moment : Moment} (hzone : moment.zone.IsOrdinary)
    (hmodern : moment.clock.IsModern) {region : Region} {shown : Moment}
    (hshown : moment.localIn region = .ok shown) :
    daysBeforeYear 2007 ≤ shown.clock.dayNumber + 31 := by
  have hlow := hmodern.le_ticks
  have hhigh := shown.clock.dayNumber_bounds.2
  rw [fullDay_eq] at hlow hhigh
  obtain ⟨-, ⟨-, rfl⟩ | ⟨-, hticks⟩⟩ := inRegion?_spec (localIn_eq_ok_iff.1 hshown)
  · omega
  · have hgreatest := (offset_bounds hzone).2
    have hleast := (region.offsetAt_bounds moment.instant).1
    rw [fullDay_eq] at hgreatest hleast
    rw [hticks, instant] at hhigh
    rw [instant] at hleast
    omega

end Calendar

/-- The date on which a meeting is shown in a region. -/
def Meeting.shownDate? (region : Region) (meeting : Meeting) : Option Date :=
  (meeting.start.inRegion? region).map fun shown => shown.clock.date

/-- Whether a meeting is shown on one of the days from a first to a last one. -/
def Meeting.isShownIn (region : Region) (first last : Nat) (meeting : Meeting) : Bool :=
  (meeting.shownDate? region).any fun date =>
    first ≤ date.dayNumber && date.dayNumber ≤ last

/-- The meetings of a range of days are those shown on one of them. -/
theorem Range.Resolved.IsDays.covers_eq {range : Range.Resolved} {region : Region}
    {first last : Nat} (hrange : range.IsDays region first (last + 1))
    (hregion : region ∈ Bundled.atlas.regions) (hfirst : daysBeforeYear 2007 ≤ first + 31)
    (horder : first ≤ last) {meeting : Meeting}
    (hzone : meeting.start.zone.IsOrdinary) (hmodern : meeting.start.clock.IsModern) :
    Book.Span.covers ⟨range.start, range.finish, .null⟩ meeting =
      meeting.isShownIn region first last := by
  obtain ⟨start, finish, hstart, hfinish, hstart_zone, hstart_ticks, hfinish_zone,
    hfinish_ticks⟩ := hrange
  obtain ⟨shown, hshown, -⟩ := Moment.shown_of_inner hzone hmodern.isInner region
  have hplace := Moment.localIn_eq_ok_iff.1 hshown
  have hfirst_once := Region.showsOnce_midnight hregion hfirst
  have hlast_once := Region.showsOnce_midnight hregion
    (show daysBeforeYear 2007 ≤ last + 1 + 31 by omega)
  rw [← hstart_ticks] at hfirst_once
  rw [← hfinish_ticks] at hlast_once
  have hbegun : meeting.start.before start = true ↔ shown.clock.dayNumber < first := by
    rw [Moment.before_iff_of_showsOnce hplace hstart_zone hfirst_once, hstart_ticks,
      shown.clock.ticks_lt_midnight_iff]
  have hended : meeting.start.before finish = true ↔ shown.clock.dayNumber < last + 1 := by
    rw [Moment.before_iff_of_showsOnce hplace hfinish_zone hlast_once, hfinish_ticks,
      shown.clock.ticks_lt_midnight_iff]
  have hdate : meeting.isShownIn region first last =
      (decide (first ≤ shown.clock.dayNumber) && decide (shown.clock.dayNumber ≤ last)) := by
    rw [Meeting.isShownIn, Meeting.shownDate?, hplace, ← shown.clock.dayNumber_date]
    rfl
  rw [hdate, Bool.eq_iff_iff, Book.Span.covers, hstart, hfinish]
  simp only [Option.all_some, Bool.and_eq_true, Bool.not_eq_true', decide_eq_true_iff, hended,
    ← Bool.not_eq_true, hbegun, Nat.not_lt, Nat.lt_succ_iff]
  exact and_congr_left fun _ => and_iff_right rfl

/-- A meeting that has a local date is shown with it. -/
theorem Meeting.shown_fields {meeting : Meeting} {region : Region} {start : Moment}
    (hstart : meeting.start.localIn region = .ok start) (book : Book) (caller : Value) :
    ∃ fields, meeting.shown book region caller = .ok fields ∧
      fields.at? "date_time" = some (.text (Iso.text start)) ∧
      fields.at? "formatted_date" = some (.text start.dateText) := by
  unfold shown
  rw [hstart]
  exact ⟨_, rfl, rfl, rfl⟩

/-! ## What is listed -/

namespace Book

variable (book : Book) (advisor : Value)

/-- Without bounds, all meetings of an advisor are picked. -/
theorem meetingsOf_all : book.meetingsOf advisor ⟨none, none, .null⟩ =
    book.meetings.filter fun meeting => meeting.advisor.same advisor := by
  apply List.filter_congr
  intro meeting _
  exact Bool.and_true _

/-- Up to now, those that began before. -/
theorem meetingsOf_past (now : Moment) : book.meetingsOf advisor ⟨none, some now, .null⟩ =
    (book.meetingsOf advisor ⟨none, none, .null⟩).filter fun meeting =>
      meeting.start.before now := by
  rw [meetingsOf_all, List.filter_filter]
  apply List.filter_congr
  intro meeting _
  exact Bool.and_comm _ _

/-- From now on, the others. -/
theorem meetingsOf_future (now : Moment) : book.meetingsOf advisor ⟨some now, none, .null⟩ =
    (book.meetingsOf advisor ⟨none, none, .null⟩).filter fun meeting =>
      !meeting.start.before now := by
  rw [meetingsOf_all, List.filter_filter]
  apply List.filter_congr
  intro meeting _
  rw [Bool.and_comm (!meeting.start.before now)]
  exact congrArg _ (Bool.and_true _)

/-- On some days, those that are shown on one of them. -/
theorem meetingsOf_days {range : Range.Resolved} {region : Region} {first last : Nat}
    (hrange : range.IsDays region first (last + 1)) (hregion : region ∈ Bundled.atlas.regions)
    (hfirst : daysBeforeYear 2007 ≤ first + 31) (horder : first ≤ last)
    (hmodern : ∀ meeting ∈ book.meetings,
      meeting.start.zone.IsOrdinary ∧ meeting.start.clock.IsModern) :
    book.meetingsOf advisor ⟨range.start, range.finish, .null⟩ =
      (book.meetingsOf advisor ⟨none, none, .null⟩).filter
        (Meeting.isShownIn region first last) := by
  rw [meetingsOf_all, List.filter_filter]
  apply List.filter_congr
  intro meeting hmeeting
  obtain ⟨hzone, hclock⟩ := hmodern meeting hmeeting
  rw [hrange.covers_eq hregion hfirst horder hzone hclock, Bool.and_comm]

end Book

namespace Surroundings

variable {σ : Type}

/-- A caller who asks for meetings by an expression is listed some meetings, each
of them as it is shown. -/
def Lists (around : Surroundings σ) (caller : Value) (expression : String)
    (listed : List Meeting) : Prop :=
  ∃ items label, listed.mapM (Meeting.shown around.book around.region caller) = .ok items ∧
    ∀ args, Range.read args = .valid expression → ∀ state,
      around.operations.handler ⟨"get_meetings_by_date_range", args, caller⟩ state =
        (.now (.success (Meeting.listing items label)), state)

/-- A list of meetings agrees with the dates that it shows, for the meetings of a
caller and the present moment on the local clock. -/
structure FollowsDates (around : Surroundings σ) (caller : Value) (own : List Meeting)
    (now : Moment) : Prop where
  /-- Each meeting is shown on a date. -/
  dates : ∀ meeting ∈ own, ∃ shown fields, meeting.start.inRegion? around.region = some shown ∧
    meeting.shown around.book around.region caller = .ok fields ∧
    fields.at? "date_time" = some (.text (Iso.text shown)) ∧
    fields.at? "formatted_date" = some (.text shown.dateText)
  /-- The meetings of some days are those whose date is one of these days. -/
  days : ∀ expression first last, Range.Asks now.clock.date.dayNumber expression first last →
    ∃ listed, around.Lists caller expression listed ∧
      listed.Perm (own.filter (Meeting.isShownIn around.region first last))
  /-- All meetings are those that began before now, and the others. -/
  halves : ∃ all, around.Lists caller "all" all ∧ all.Perm own ∧
    around.Lists caller "past" (all.filter fun meeting => meeting.start.before now) ∧
    around.Lists caller "future" (all.filter fun meeting => !meeting.start.before now)

variable {around : Surroundings σ}

/-- What an expression stands for is listed. -/
theorem lists_of_resolve (hsound : ∀ meeting ∈ around.book.meetings, meeting.IsSound)
    {now : Moment} (hnow : around.clock.localIn around.region = .ok now) {expression : String}
    {range : Range.Resolved}
    (hrange : Range.resolve around.region now (Text.lower (Text.trim expression)) = .ok range)
    (caller : Value) :
    around.Lists caller expression
      (around.book.meetingsOf caller ⟨range.start, range.finish, .null⟩) := by
  obtain ⟨items, hitems⟩ :=
    Book.shown_ok hsound around.region caller ⟨range.start, range.finish, .null⟩
  refine ⟨items, range.label, hitems, fun args hargs state => ?_⟩
  have hrun : Range.run around.book around.region around.clock expression caller =
      .ok (.success (Meeting.listing items range.label)) := by
    rw [Range.run, hnow]
    simp only [Bind.bind, Except.bind, hrange, hitems]
    rfl
  have hfind : around.operations.find? "get_meetings_by_date_range" =
      some (.getMeetingsByDateRange around.book around.region around.clock) := rfl
  simp only [Operations.handler, hfind, Operation.getMeetingsByDateRange, hargs, Checked.map,
    Operation.settledAct, hrun, Answer.ofExcept]

end Surroundings

/-- **Lists of meetings follow the dates they show.**  In the bundled regions, over every
seed and at every moment of modern years, the meetings of a caller are shown on
local dates; who asks for some days is listed exactly those meetings whose date is
one of them, each as often as the seed holds it; and all of the meetings are the
past ones and the future ones. -/
theorem listing_follows_dates {σ : Type} (around : Surroundings σ)
    (hregion : around.region ∈ Bundled.atlas.regions) {seed : Value}
    {records : Records} (hrecords : Book.records (.region around.region) seed = .ok records)
    (hbook : around.book = records.book)
    (hmeetings : ∀ meeting ∈ records.meetings, meeting.start.clock.IsModern)
    (hzone : around.clock.zone.IsOrdinary) (hclock : around.clock.clock.IsModern)
    (caller : Value) :
    ∃ now, around.clock.inRegion? around.region = some now ∧
      around.FollowsDates caller
        (records.meetings.filter fun meeting => meeting.advisor.same caller) now := by
  have hseed : Book.ofSeed (.region around.region) seed = .ok around.book := by
    rw [Book.ofSeed_eq, hrecords, hbook]
    rfl
  have hperm : around.book.meetings.Perm records.meetings := by
    rw [hbook]
    exact Sorting.sort_perm _ _
  have hmodern : ∀ meeting ∈ around.book.meetings,
      meeting.start.zone.IsOrdinary ∧ meeting.start.clock.IsModern := fun meeting hmeeting =>
    ⟨Book.isOrdinary_of_ofSeed hseed meeting hmeeting,
      hmeetings meeting (hperm.mem_iff.1 hmeeting)⟩
  have hsound : ∀ meeting ∈ around.book.meetings, meeting.IsSound := fun meeting hmeeting =>
    ⟨(hmodern meeting hmeeting).1, (hmodern meeting hmeeting).2.isInner⟩
  obtain ⟨now, hnow, hend⟩ := Moment.shown_of_inner hzone hclock.isInner around.region
  have htoday := Moment.daysBeforeYear_le_shown hzone hclock hnow
  have hnow_zone := Moment.zone_of_localIn hnow
  refine ⟨now, Moment.localIn_eq_ok_iff.1 hnow, ?_, ?_, ?_⟩
  · intro meeting hmeeting
    have hmem : meeting ∈ around.book.meetings := hperm.mem_iff.2 (List.mem_of_mem_filter hmeeting)
    obtain ⟨hown, howns⟩ := hmodern meeting hmem
    obtain ⟨shown, hshown, -⟩ := Moment.shown_of_inner hown howns.isInner around.region
    obtain ⟨fields, hfields, htime, hdate⟩ := Meeting.shown_fields hshown around.book caller
    exact ⟨shown, fields, Moment.localIn_eq_ok_iff.1 hshown, hfields, htime, hdate⟩
  · intro expression first last hasks
    rw [now.clock.dayNumber_date] at hasks
    obtain ⟨range, hrange, hdays⟩ := hasks.resolve hnow_zone hend
    refine ⟨_, Surroundings.lists_of_resolve hsound hnow hrange caller, ?_⟩
    rw [Book.meetingsOf_days _ caller hdays hregion (hasks.daysBeforeYear_le htoday) hasks.le
      hmodern, Book.meetingsOf_all]
    exact (hperm.filter _).filter _
  · have hkeys : Text.lower (Text.trim "all") = "all" ∧ Text.lower (Text.trim "past") = "past" ∧
        Text.lower (Text.trim "future") = "future" := by
      decide +kernel
    have hlist : ∀ expression range, Range.resolve around.region now expression = .ok range →
        Text.lower (Text.trim expression) = expression → around.Lists caller expression
          (around.book.meetingsOf caller ⟨range.start, range.finish, .null⟩) := by
      intro expression range hrange hkey
      exact Surroundings.lists_of_resolve hsound hnow (hkey.symm ▸ hrange) caller
    refine ⟨_, hlist "all" ⟨none, none, "in total"⟩ rfl hkeys.1, ?_, ?_, ?_⟩
    · rw [Book.meetingsOf_all]
      exact hperm.filter _
    · rw [← Book.meetingsOf_past]
      exact hlist "past" ⟨none, some now, "in the past"⟩ rfl hkeys.2.1
    · rw [← Book.meetingsOf_future]
      exact hlist "future" ⟨some now, none, "upcoming"⟩ rfl hkeys.2.2

/-- On a spring day of 23 hours in New York, the last half hour is listed for today
and the next one is not. -/
theorem listing_follows_dates_of_short_day :
    let review : Value := .object [("id", .int 1), ("advisor_id", .int 1),
      ("subject", .text "Review"), ("date_time", .text "2026-03-09T03:30:00+00:00")]
    let onboarding : Value := .object [("id", .int 2), ("advisor_id", .int 1),
      ("subject", .text "Onboarding"), ("date_time", .text "2026-03-09T04:30:00+00:00")]
    let seed : Value := .object [("meetings", .list [onboarding, review])]
    let clock : Moment := ⟨⟨63908544600000000, by decide, by decide⟩, .constant 0, false⟩
    let fetch : News.Fetcher Unit := fun _ state => (.unreachable, state)
    let args : Value := .object [("date_range", .text "today")]
    ∃ first second items label,
      Book.records (.region .newYork) seed = .ok ⟨[], [second, first]⟩ ∧ first.id = .int 1 ∧
      let book := (Records.mk [] [second, first]).book
      let around : Surroundings Unit := ⟨book, .newYork, clock, "", fetch⟩
      [first].mapM (Meeting.shown book .newYork (.int 1)) = .ok items ∧
        around.operations.handler ⟨"get_meetings_by_date_range", args, .int 1⟩ () =
          (.now (.success (Meeting.listing items label)), ()) := by
  intro review onboarding seed clock fetch args
  let held (id : Int) (subject : String) (start : Clock) : Meeting :=
    ⟨.int id, .int 1, .text subject, ⟨start, .constant 0, false⟩, .int 60, .null, .text "",
      .text ""⟩
  let first := held 1 "Review" ⟨63908623800000000, by decide, by decide⟩
  let second := held 2 "Onboarding" ⟨63908627400000000, by decide, by decide⟩
  let records : Records := ⟨[], [second, first]⟩
  have hrecords : Book.records (.region .newYork) seed = .ok records := rfl
  let around : Surroundings Unit := ⟨records.book, .newYork, clock, "", fetch⟩
  have hzone : IsOffset 0 := by decide
  have hmeetings : ∀ meeting ∈ records.meetings, meeting.start.clock.IsModern := by
    intro meeting hmeeting
    rcases List.mem_pair.1 hmeeting with rfl | rfl <;> decide
  obtain ⟨now, hnow, hlisting⟩ :=
    listing_follows_dates around (by simp [around, Bundled.atlas]) hrecords rfl hmeetings hzone
      (by decide) (.int 1)
  obtain ⟨listed, hlists, hperm⟩ := hlisting.days "today" _ _ .today
  have htoday : now.clock.date.dayNumber = 739682 := by
    have hdate : (clock.inRegion? .newYork).map (fun shown => shown.clock.date.dayNumber) =
        some 739682 := by decide +kernel
    rw [hnow] at hdate
    exact Option.some.inj hdate
  have hfirst : first.isShownIn .newYork 739682 739682 = true := by decide +kernel
  have hsecond : second.isShownIn .newYork 739682 739682 = false := by decide +kernel
  have hown : records.meetings.filter (fun meeting => meeting.advisor.same (.int 1)) =
      [second, first] := rfl
  rw [hown, htoday, List.filter_cons_of_neg (ne_true_of_eq_false hsecond),
    List.filter_cons_of_pos hfirst, List.filter_nil] at hperm
  rw [List.perm_singleton.1 hperm] at hlists
  obtain ⟨items, label, hitems, hanswer⟩ := hlists
  exact ⟨first, second, items, label, hrecords, rfl, hitems, hanswer args rfl ()⟩

end FlowDesk
