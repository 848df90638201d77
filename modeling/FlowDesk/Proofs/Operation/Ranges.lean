/-
# What ranges of dates stand for

An expression for a range of dates is a keyword, a written day, or two written
days with a slash between them.  This module says which days it stands for.  A
range of whole days is told by its first day and the day after its last one
(`Range.Resolved.IsDays`); an expression that names no days is not understood,
and one that names the last day of all leads out of the calendar
(`Range.resolve_outside_iff`).
-/

import FlowDesk.Operation.Meetings
import FlowDesk.Proofs.Calendar.Midnight

namespace FlowDesk.Range

open Calendar

variable {region : Region} {now : Moment} {key : String}

/-! ## Ranges of days -/

/-- A range of whole days, from a first one on and before another one. -/
def Resolved.IsDays (range : Resolved) (region : Region) (first next : Nat) : Prop :=
  ∃ start finish, range.start = some start ∧ range.finish = some finish ∧
    start.zone = .region region ∧ start.clock.ticks = first * fullDay ∧
    finish.zone = .region region ∧ finish.clock.ticks = next * fullDay

/-- The day of a moment began at its midnight. -/
theorem midnightOf_spec (moment : Moment) :
    (midnightOf moment).zone = moment.zone ∧
      (midnightOf moment).clock.ticks = moment.clock.dayNumber * fullDay := by
  obtain ⟨hlow, hhigh⟩ := moment.clock.dayNumber_bounds
  have hmidnight : moment.clock.midnight = moment.clock.dayNumber * fullDay := by
    rw [fullDay_eq] at hlow hhigh
    simp only [Clock.midnight, Clock.timeOfDay, fullDay_eq]
    omega
  have hend := moment.clock.notLater
  obtain ⟨clock, hclock, hticks⟩ : ∃ clock,
      Clock.ofTicks? moment.clock.midnight = some clock ∧ clock.ticks = moment.clock.midnight := by
    apply Clock.exists_ofTicks?
    · rw [hmidnight]
      exact Int.mul_nonneg (Int.natCast_nonneg _) (by decide)
    · omega
  rw [midnightOf, hclock]
  exact ⟨rfl, hticks.trans hmidnight⟩

/-- Some days after a midnight there is another one, unless the calendar ends
before it. -/
theorem daysAfter_spec {moment : Moment} {day : Nat}
    (hmidnight : moment.clock.ticks = day * fullDay) (count : Nat) :
    (day + count < dayCount → ∃ later, daysAfter moment count = .ok later ∧
      later.zone = moment.zone ∧ later.clock.ticks = (day + count : Nat) * fullDay) ∧
    (dayCount ≤ day + count → daysAfter moment count = .error .outside) := by
  have hticks : moment.clock.ticks + count * fullDay = (day + count : Nat) * fullDay := by
    rw [hmidnight, fullDay_eq]
    omega
  constructor
  · intro hend
    obtain ⟨clock, hclock, hreading⟩ : ∃ clock,
        Clock.ofTicks? (moment.clock.ticks + count * fullDay) = some clock ∧
          clock.ticks = moment.clock.ticks + count * fullDay := by
      apply Clock.exists_ofTicks? <;> rw [hticks, fullDay_eq]
      · omega
      · rw [clockLimit_eq]
        omega
    refine ⟨⟨clock, moment.zone, false⟩, ?_, rfl, hreading.trans hticks⟩
    rw [daysAfter, Moment.later?, hclock]
    rfl
  · intro hend
    have hnone : Clock.ofTicks? (moment.clock.ticks + count * fullDay) = none := by
      rw [hticks, Clock.ofTicks?, dif_neg]
      rw [fullDay_eq, clockLimit_eq]
      omega
    rw [daysAfter, Moment.later?, hnone]
    rfl

/-- A range of days that begins some days after today. -/
theorem days_spec (hzone : now.zone = .region region) (skip length : Nat) (label : String)
    (hend : now.clock.dayNumber + skip + length < dayCount) :
    ∃ range, days now skip length label = .ok range ∧
      range.IsDays region (now.clock.dayNumber + skip) (now.clock.dayNumber + skip + length) := by
  obtain ⟨hmidnight_zone, hmidnight⟩ := midnightOf_spec now
  obtain ⟨finish, hfinish, hfinish_zone, hfinish_ticks⟩ :=
    (daysAfter_spec hmidnight (skip + length)).1 (by omega)
  have hnext : now.clock.dayNumber + skip + length = now.clock.dayNumber + (skip + length) :=
    Nat.add_assoc _ _ _
  cases skip with
  | zero =>
    refine ⟨⟨some (midnightOf now), some finish, label⟩, ?_, _, _, rfl, rfl,
      hmidnight_zone.trans hzone, hmidnight, (hfinish_zone.trans hmidnight_zone).trans hzone, ?_⟩
    · rw [days, hfinish]
      rfl
    · rw [hnext]
      exact hfinish_ticks
  | succ skip =>
    obtain ⟨start, hstart, hstart_zone, hstart_ticks⟩ :=
      (daysAfter_spec hmidnight (skip + 1)).1 (by omega)
    refine ⟨⟨some start, some finish, label⟩, ?_, _, _, rfl, rfl,
      (hstart_zone.trans hmidnight_zone).trans hzone, hstart_ticks,
      (hfinish_zone.trans hmidnight_zone).trans hzone, ?_⟩
    · rw [days, hfinish, hstart]
      rfl
    · rw [hnext]
      exact hfinish_ticks

/-! ## Written days -/

/-- A written day begins at its midnight, and anything else is not understood. -/
theorem dayStart_spec (region : Region) (s : String) :
    (∀ date ∈ Day.read? (Text.trim s), ∃ start, dayStart region s = .ok start ∧
      start.zone = .region region ∧ start.clock.ticks = date.dayNumber * fullDay) ∧
    (Day.read? (Text.trim s) = none → dayStart region s = .error .unrecognized) := by
  unfold dayStart
  constructor
  · intro date hread
    obtain ⟨clock, hclock, hticks⟩ := Clock.exists_midnight (Day.isValid_of_read? hread)
    rw [Option.mem_def.1 hread, Option.bind_some, hclock]
    exact ⟨_, rfl, rfl, hticks⟩
  · intro hread
    rw [hread]
    rfl

/-- The written last day of an expression: what stands after the slash, or the
first day again. -/
def lastPart (key : String) : String :=
  if (parts key).2 = "" then (parts key).1 else (parts key).2

/-- An expression names the days from a date to another one. -/
structure Names (key : String) (first last : Date) : Prop where
  first : Day.read? (Text.trim (parts key).1) = some first
  last : Day.read? (Text.trim (lastPart key)) = some last

/-- The range from one day to another one, which is included. -/
def stretch (start lastDay : Moment) (label : String) : Except Unresolved Resolved :=
  if lastDay.before start then .error .unrecognized
  else (daysAfter lastDay 1).map fun finish => ⟨some start, some finish, label⟩

/-- An expression without a keyword stands for the days from its first to its
last. -/
theorem explicit_eq (region : Region) (key : String) :
    ∃ label : Moment → Moment → String, explicit region key =
      (dayStart region (parts key).1).bind fun start =>
        (dayStart region (lastPart key)).bind fun lastDay =>
          stretch start lastDay (label start lastDay) := by
  refine ⟨fun start lastDay => if (parts key).2 = "" then s!"on {start.dateText}"
    else s!"between {start.dateText} and {lastDay.dateText}", ?_⟩
  unfold explicit lastPart stretch
  generalize parts key = cut
  obtain ⟨first, last⟩ := cut
  dsimp only [bind, pure, Except.pure]
  cases hstart : dayStart region first with
  | error cause => simp only [Except.bind]
  | ok start =>
    dsimp only [Except.bind]
    by_cases hone : last = ""
    · simp only [hone, if_true, hstart]
      split
      · rfl
      · cases daysAfter start 1 <;> rfl
    · simp only [hone, if_false]
      cases dayStart region last with
      | error cause => rfl
      | ok lastDay =>
        dsimp only
        split
        · rfl
        · cases daysAfter lastDay 1 <;> rfl

/-- The days from one to another one, which comes no earlier and is not the last
of the calendar. -/
theorem stretch_spec {start lastDay : Moment} {first last : Nat}
    (hstart_zone : start.zone = .region region) (hstart : start.clock.ticks = first * fullDay)
    (hlast_zone : lastDay.zone = .region region) (hlast : lastDay.clock.ticks = last * fullDay)
    (label : String) :
    (last < first → stretch start lastDay label = .error .unrecognized) ∧
      (first ≤ last → last + 1 < dayCount → ∃ range, stretch start lastDay label = .ok range ∧
        range.IsDays region first (last + 1)) ∧
      (first ≤ last → dayCount ≤ last + 1 → stretch start lastDay label = .error .outside) := by
  obtain ⟨hafter, houtside⟩ := daysAfter_spec hlast 1
  have horder : lastDay.before start = true ↔ last < first := by
    rw [Moment.before, if_pos (hlast_zone.trans hstart_zone.symm), decide_eq_true_iff, hstart,
      hlast, fullDay_eq]
    omega
  refine ⟨fun hlt => ?_, fun hle hend => ?_, fun hle hend => ?_⟩
  · rw [stretch, if_pos (horder.2 hlt)]
  · obtain ⟨finish, hfinish, hzone, hticks⟩ := hafter hend
    rw [stretch, if_neg fun h => Nat.not_lt.2 hle (horder.1 h), hfinish]
    exact ⟨_, rfl, _, _, rfl, rfl, hstart_zone, hstart, hzone.trans hlast_zone, hticks⟩
  · rw [stretch, if_neg fun h => Nat.not_lt.2 hle (horder.1 h), houtside hend]
    rfl

/-- An expression that names days stands for them, if they are in their order and
the last one is not the last of the calendar. -/
theorem explicit_of_names (region : Region) {first last : Date} (hnames : Names key first last) :
    (last.dayNumber < first.dayNumber → explicit region key = .error .unrecognized) ∧
      (first.dayNumber ≤ last.dayNumber → last.dayNumber + 1 < dayCount →
        ∃ range, explicit region key = .ok range ∧
          range.IsDays region first.dayNumber (last.dayNumber + 1)) ∧
      (first.dayNumber ≤ last.dayNumber → dayCount ≤ last.dayNumber + 1 →
        explicit region key = .error .outside) := by
  obtain ⟨start, hstart, hstart_zone, hstart_ticks⟩ :=
    (dayStart_spec region (parts key).1).1 first hnames.first
  obtain ⟨lastDay, hlast, hlast_zone, hlast_ticks⟩ :=
    (dayStart_spec region (lastPart key)).1 last hnames.last
  obtain ⟨label, hexplicit⟩ := explicit_eq region key
  rw [hexplicit, hstart, hlast]
  exact stretch_spec hstart_zone hstart_ticks hlast_zone hlast_ticks _

/-- An expression that names no days is not understood. -/
theorem explicit_of_unnamed (region : Region) (hunnamed : ∀ first last, ¬ Names key first last) :
    explicit region key = .error .unrecognized := by
  obtain ⟨label, hexplicit⟩ := explicit_eq region key
  rw [hexplicit]
  cases hfirst : Day.read? (Text.trim (parts key).1) with
  | none =>
    rw [(dayStart_spec region (parts key).1).2 hfirst]
    rfl
  | some first =>
    obtain ⟨start, hstart, -, -⟩ := (dayStart_spec region (parts key).1).1 first hfirst
    cases hlast : Day.read? (Text.trim (lastPart key)) with
    | none =>
      rw [hstart, (dayStart_spec region (lastPart key)).2 hlast]
      rfl
    | some last => exact absurd ⟨hfirst, hlast⟩ (hunnamed first last)

/-! ## Expressions -/

/-- The keywords. -/
def keywords : List String := ["today", "tomorrow", "week", "month", "future", "past", "all"]

/-- No keyword is a written day. -/
theorem not_names_of_mem_keywords (hkey : key ∈ keywords) (first last : Date) :
    ¬ Names key first last := by
  have hnone : ∀ word ∈ keywords, Day.read? (Text.trim (parts word).1) = none := by
    decide +kernel
  intro hnames
  have hfirst := hnames.first
  rw [hnone key hkey] at hfirst
  cases hfirst

/-- What is no keyword is read as written days. -/
theorem resolve_of_not_mem (region : Region) (now : Moment) (hkey : key ∉ keywords) :
    resolve region now key = explicit region key := by
  simp only [keywords, List.mem_cons, List.not_mem_nil, or_false, not_or] at hkey
  obtain ⟨h1, h2, h3, h4, h5, h6, h7⟩ := hkey
  rw [resolve, if_neg h1, if_neg h2, if_neg h3, if_neg h4, if_neg h5, if_neg h6, if_neg h7]

/-- A keyword stands for a range, if it is not too late for one. -/
theorem resolve_of_mem (hzone : now.zone = .region region)
    (hend : now.clock.dayNumber + 30 < dayCount) (hkey : key ∈ keywords) :
    ∃ range, resolve region now key = .ok range := by
  simp only [keywords, List.mem_cons, List.not_mem_nil, or_false] at hkey
  rcases hkey with rfl | rfl | rfl | rfl | rfl | rfl | rfl
  · obtain ⟨range, hrange, -⟩ := days_spec hzone 0 1 "for today" (by omega)
    exact ⟨range, hrange⟩
  · obtain ⟨range, hrange, -⟩ := days_spec hzone 1 1 "for tomorrow" (by omega)
    exact ⟨range, hrange⟩
  · obtain ⟨range, hrange, -⟩ := days_spec hzone 0 7 "in the next 7 days" (by omega)
    exact ⟨range, hrange⟩
  · obtain ⟨range, hrange, -⟩ := days_spec hzone 0 30 "in the next 30 days" (by omega)
    exact ⟨range, hrange⟩
  · exact ⟨_, rfl⟩
  · exact ⟨_, rfl⟩
  · exact ⟨_, rfl⟩

/-- An expression names days up to the last one of the calendar. -/
def ReachesEnd (key : String) : Prop :=
  ∃ first last, Names key first last ∧ last.dayNumber + 1 = dayCount

/-- Of all expressions, those lead out of the calendar that name its last day. -/
theorem resolve_outside_iff (hzone : now.zone = .region region)
    (hend : now.clock.dayNumber + 30 < dayCount) :
    resolve region now key = .error .outside ↔ ReachesEnd key := by
  by_cases hkey : key ∈ keywords
  · obtain ⟨range, hrange⟩ := resolve_of_mem hzone hend hkey
    rw [hrange]
    refine ⟨fun h => (by cases h), ?_⟩
    rintro ⟨first, last, hnames, -⟩
    exact absurd hnames (not_names_of_mem_keywords hkey first last)
  · rw [resolve_of_not_mem region now hkey]
    constructor
    · intro houtside
      by_cases hnamed : ∃ first last, Names key first last
      · obtain ⟨first, last, hnames⟩ := hnamed
        obtain ⟨hagainst, hwithin, -⟩ := explicit_of_names region hnames
        have horder : first.dayNumber ≤ last.dayNumber := by
          by_contra hlt
          rw [hagainst (Nat.not_le.1 hlt)] at houtside
          cases houtside
        have hlast : ¬ last.dayNumber + 1 < dayCount := by
          intro hbefore
          obtain ⟨range, hrange, -⟩ := hwithin horder hbefore
          rw [hrange] at houtside
          cases houtside
        have hvalid := Date.dayNumber_lt (Day.isValid_of_read? hnames.last)
        exact ⟨first, last, hnames, by omega⟩
      · rw [explicit_of_unnamed region fun first last h => hnamed ⟨first, last, h⟩] at houtside
        cases houtside
    · rintro ⟨first, last, hnames, hlast⟩
      have hvalid := Date.dayNumber_lt (Day.isValid_of_read? hnames.first)
      exact (explicit_of_names region hnames).2.2 (by omega) (by omega)

end FlowDesk.Range
