/-
# Local midnights

A meeting is on a day when its start, shown on the local clock, lies between two
midnights.  Where clocks change, days have 23 or 25 hours, and the local clock neither
follows the instants nor shows each reading once.  But an instant comes before a reading
that is shown once exactly when the reading that is shown at it does
(`Region.before_reading_iff`).  And midnights are such readings, in the bundled regions
and since the rules of New York were last changed (`Region.showsOnce_midnight`).

So it makes no difference whether a moment is compared with such a midnight by instants,
or first shown on the local clock and then compared by readings
(`Moment.before_iff_of_showsOnce`).
-/

import FlowDesk.Bundled.Regions
import FlowDesk.Proofs.Calendar.Within

namespace FlowDesk.Calendar

/-! ## Readings that are shown once -/

namespace Era

variable {era : Era} {changes : List Change} {reading instant : Int}

/-- An instant comes before a reading that is shown once exactly when the reading shown at
it does. -/
theorem before_reading_iff (hordered : era.Ordered changes)
    (honce : (era.latest (fun era => era.reading false ≤ reading) changes).offset =
      (era.latest (fun era => era.reading true ≤ reading) changes).offset) :
    instant < reading - (era.latest (fun era => era.reading false ≤ reading) changes).offset ↔
      instant + (era.latest (fun era => era.start ≤ instant) changes).offset < reading := by
  induction changes generalizing era with
  | nil =>
    simp only [latest_nil]
    omega
  | cons change later ih =>
    by_cases hreading : (era.next change).reading false ≤ reading
    · have hagain := Int.le_trans ((era.next change).reading_le false).1 hreading
      rw [latest_of_begun (decide_eq_true hreading)] at honce ⊢
      rw [latest_of_begun (decide_eq_true hagain)] at honce
      by_cases hstart : (era.next change).start ≤ instant
      · rw [latest_of_begun (decide_eq_true hstart)]
        exact ih hordered.2 honce
      · have hlast := start_le_of_reading (reading_latest hreading later)
        have hfirst := (hordered.2.le_latest fun era => era.reading false ≤ reading).1
        have hshown : (era.next change).start + era.offset ≤ (era.next change).reading false :=
          (era.next change).reading_bounds.2
        rw [latest_of_not_begun (decide_eq_false hstart)]
        omega
    · have hstay : era.latest (fun era => era.reading false ≤ reading) (change :: later) = era :=
        latest_of_not_begun (decide_eq_false hreading)
      rw [hstay] at honce ⊢
      by_cases hstart : (era.next change).start ≤ instant
      · have hbefore : reading - era.offset < (era.next change).start :=
          lt_next_of_kept hordered (Int.not_le.1 hreading) (Int.le_of_eq honce.symm)
        have hlow := lt_reading_of_once hordered (Int.not_le.1 hreading) honce
        have hfirst := (hordered.2.le_latest fun era => era.start ≤ instant).2 true
        have hlast := start_latest hstart later
        have hshown := ((era.next change).latest (fun era => era.start ≤ instant)
          later).reading_bounds.1
        rw [latest_of_begun (decide_eq_true hstart)]
        omega
      · rw [latest_of_not_begun (decide_eq_false hstart)]
        omega

end Era

namespace Region

/-- A region's clock shows a reading once: neither skips it nor shows it again. -/
def ShowsOnce (region : Region) (reading : Int) : Prop :=
  region.offset reading false = region.offset reading true

/-- **An instant comes before a reading that is shown once** exactly when the reading that is
shown at it does. -/
theorem before_reading_iff {region : Region} {reading instant : Int} (again : Bool)
    (honce : region.ShowsOnce reading) :
    instant < reading - region.offset reading again ↔
      instant + (region.offsetAt instant).1 < reading := by
  have hsame : region.offset reading again = region.offset reading false := by
    cases again
    · rfl
    · exact honce.symm
  rw [ShowsOnce, offset_eq, offset_eq] at honce
  rw [hsame, offset_eq, offsetAt, eraAt, History.era_eq]
  exact Era.before_reading_iff region.sound.ordered honce

end Region

/-! ## Midnights -/

namespace Era

variable {era : Era} {changes : List Change} {spring autumn : Yearly}

/-- The eras that some changes begin after an era. -/
def following : Era → List Change → List Era
  | _, [] => []
  | era, change :: later => era.next change :: (era.next change).following later

/-- The eras of some changes and of later ones. -/
theorem following_append (era : Era) (earlier later : List Change) :
    era.following (earlier ++ later) =
      era.following earlier ++ (earlier.foldl next era).following later := by
  induction earlier generalizing era with
  | nil => rfl
  | cons change earlier ih =>
    simp only [List.cons_append, following, ih, List.foldl_cons]

/-- The last era is the same by any two tests that the eras pass alike. -/
theorem latest_congr {begun begun' : Era → Bool}
    (hsame : ∀ other ∈ era.following changes, begun other = begun' other) :
    era.latest begun changes = era.latest begun' changes := by
  induction changes generalizing era with
  | nil => rfl
  | cons change later ih =>
    obtain ⟨hnext, hlater⟩ := List.forall_mem_cons.1 hsame
    rw [latest_cons, latest_cons, hnext, ih hlater]

/-- The eras of every year: that of spring after autumn, and that of autumn after spring. -/
theorem mem_following_seasons (count : Nat) {year : Nat} (hoffset : era.offset = autumn.offset) :
    ∀ other ∈ era.following (Yearly.seasons [spring, autumn] year count), ∃ day : Nat,
      other = ⟨day * fullDay + spring.time, autumn.offset, spring.offset, spring.daylight⟩ ∨
        other = ⟨day * fullDay + autumn.time, spring.offset, autumn.offset, autumn.daylight⟩ := by
  induction count generalizing year era with
  | zero => exact fun other hother => nomatch hother
  | succ count ih =>
    intro other hother
    rw [Yearly.seasons_succ] at hother
    rcases hother with _ | ⟨_, _ | ⟨_, hother⟩⟩
    · exact ⟨spring.dayIn year, .inl (by rw [← hoffset]; rfl)⟩
    · exact ⟨autumn.dayIn year, .inr rfl⟩
    · exact ih rfl other hother

/-- An era that begins within a day counts from a midnight on at both showings, or at none. -/
theorem reading_le_midnight_iff (own : Nat) (hlow : own * fullDay < era.reading true)
    (hhigh : era.reading false ≤ (own + 1) * fullDay) (day : Nat) :
    era.reading false ≤ day * fullDay ↔ era.reading true ≤ day * fullDay := by
  have horder := (era.reading_le true).2
  rw [fullDay_eq] at hlow hhigh ⊢
  omega

end Era

/-- A rule for changes from an offset that are over on their day: on the local clock it is
not midnight before, nor after. -/
def Yearly.IsInDay (rule : Yearly) (before : Int) : Prop :=
  0 < rule.time + min before rule.offset ∧ rule.time + max before rule.offset ≤ fullDay

instance (rule : Yearly) (before : Int) : Decidable (rule.IsInDay before) :=
  inferInstanceAs (Decidable (_ ∧ _))

namespace Region

variable {region : Region}

/-- A reading is shown once when no era counts from it on at one showing only. -/
theorem showsOnce_of_following {reading : Int}
    (hsame : ∀ era ∈ region.history.firstEra.following region.history.changes,
      (era.reading false ≤ reading ↔ era.reading true ≤ reading)) : region.ShowsOnce reading := by
  rw [ShowsOnce, offset_eq, offset_eq]
  exact congrArg _ (Era.latest_congr fun era hera => decide_eq_decide.2 (hsame era hera))

/-- Where the changes of every year are over on their day, midnights are shown once after
those of the past. -/
theorem showsOnce_of_alternate {spring autumn : Yearly} {first : Nat}
    (hyearly : region.history.yearly = [spring, autumn])
    (hlast : (region.history.past.foldl Era.next region.history.firstEra).offset = autumn.offset)
    (hspring : spring.IsInDay autumn.offset) (hautumn : autumn.IsInDay spring.offset)
    (hpast : ∀ era ∈ region.history.firstEra.following region.history.past,
      era.reading false ≤ first * fullDay) {day : Nat} (hday : first ≤ day) :
    region.ShowsOnce (day * fullDay) := by
  refine showsOnce_of_following fun era hera => ?_
  rw [History.changes, hyearly, Era.following_append, List.mem_append] at hera
  rcases hera with hera | hera
  · have hover := hpast era hera
    have horder := (era.reading_le true).2
    rw [fullDay_eq] at hover ⊢
    omega
  · obtain ⟨hearly, hlate⟩ := hspring
    obtain ⟨hearly', hlate'⟩ := hautumn
    obtain ⟨own, rfl | rfl⟩ := Era.mem_following_seasons _ hlast era hera <;>
      refine Era.reading_le_midnight_iff own ?_ ?_ day <;>
      simp only [Era.reading, if_true, if_false, Bool.false_eq_true, Int.add_mul, Int.one_mul] <;>
      omega

/-- The bundled regions show midnights once since December 2006, the first winter that ends
by the rules of New York for every year. -/
theorem showsOnce_midnight (hregion : region ∈ Bundled.atlas.regions) {day : Nat}
    (hday : daysBeforeYear 2007 ≤ day + 31) : region.ShowsOnce (day * fullDay) := by
  have hfirst : daysBeforeYear 2007 - 31 ≤ day := by omega
  have hpast : ∀ {era : Era}, era.reading false ≤ (daysBeforeYear 2007 - 31 : Nat) * fullDay →
      (era.reading false ≤ day * fullDay ↔ era.reading true ≤ day * fullDay) := by
    intro era hover
    have horder := (era.reading_le true).2
    rw [fullDay_eq] at hover ⊢
    omega
  simp only [Bundled.atlas, List.mem_cons, List.not_mem_nil, or_false] at hregion
  rcases hregion with rfl | rfl | rfl | rfl
  · exact showsOnce_of_following fun era hera => nomatch hera
  · have hover : ∀ era ∈ kolkata.history.firstEra.following kolkata.history.changes,
        era.reading false ≤ (daysBeforeYear 2007 - 31 : Nat) * fullDay := by decide +kernel
    exact showsOnce_of_following fun era hera => hpast (hover era hera)
  · exact showsOnce_of_alternate rfl (by decide +kernel) (by decide) (by decide)
      (by decide +kernel) hfirst
  · exact showsOnce_of_alternate rfl (by decide +kernel) (by decide) (by decide)
      (by decide +kernel) hfirst

end Region

/-! ## Moments and midnights -/

/-- The reading of a clock that shows some ticks. -/
theorem Clock.ticks_of_ofTicks? {ticks : Int} {clock : Clock}
    (hclock : ofTicks? ticks = some clock) : clock.ticks = ticks := by
  unfold ofTicks? at hclock
  split at hclock <;> cases hclock
  rfl

namespace Moment

variable {moment shown : Moment} {region : Region}

/-- A moment of a region is shown there as it is, and another one at the reading
of its instant. -/
theorem inRegion?_spec (hshown : moment.inRegion? region = some shown) :
    shown.zone = .region region ∧
      (moment.zone = .region region ∧ shown = moment ∨
        moment.zone ≠ .region region ∧
          shown.clock.ticks = moment.instant + (region.offsetAt moment.instant).1) := by
  unfold inRegion? at hshown
  by_cases hsame : moment.zone = .region region
  · rw [if_pos hsame] at hshown
    cases hshown
    exact ⟨hsame, .inl ⟨hsame, rfl⟩⟩
  · rw [if_neg hsame] at hshown
    obtain ⟨universal, huniversal, hshown⟩ := Option.bind_eq_some_iff.1 hshown
    have hticks := Clock.ticks_of_ofTicks? huniversal
    dsimp only at hshown
    rw [hticks] at hshown
    obtain ⟨clock, hclock, rfl⟩ := Option.map_eq_some_iff.1 hshown
    exact ⟨rfl, .inr ⟨hsame, Clock.ticks_of_ofTicks? hclock⟩⟩

/-- A moment is shown in a region when the calendar holds it there. -/
theorem localIn_eq_ok_iff : moment.localIn region = .ok shown ↔
    moment.inRegion? region = some shown := by
  unfold localIn
  cases moment.inRegion? region <;> simp

/-- A moment that the calendar of a region does not hold is not shown there. -/
theorem localIn_eq_error_iff (moment : Moment) (region : Region) :
    moment.localIn region = .error .dateOutOfRange ↔ moment.inRegion? region = none := by
  unfold localIn
  cases moment.inRegion? region <;> simp

/-- A moment that is shown in a region is one of its clock. -/
theorem zone_of_localIn (hshown : moment.localIn region = .ok shown) :
    shown.zone = .region region :=
  (inRegion?_spec (localIn_eq_ok_iff.1 hshown)).1

/-- An inner moment is shown in every region, a month before the end of the
calendar. -/
theorem shown_of_inner (hzone : moment.zone.IsOrdinary) (hinner : moment.clock.IsInner)
    (region : Region) :
    ∃ shown, moment.localIn region = .ok shown ∧ shown.clock.dayNumber + 30 < dayCount := by
  obtain ⟨shown, hshown, hnear⟩ := localIn_of_inner hzone hinner region
  have hday := shown.clock.dayNumber_bounds.1
  have hfar := hinner.bounds.2
  rw [fullDay_eq] at hday hnear hfar
  rw [clockLimit_eq] at hfar
  exact ⟨shown, hshown, by omega⟩

/-- A moment comes before a reading that the local clock shows once exactly when the
reading at which it is shown does. -/
theorem before_iff_of_showsOnce {bound : Moment} (hshown : moment.inRegion? region = some shown)
    (hzone : bound.zone = .region region) (honce : region.ShowsOnce bound.clock.ticks) :
    moment.before bound = true ↔ shown.clock.ticks < bound.clock.ticks := by
  unfold before
  obtain ⟨-, ⟨hsame, rfl⟩ | ⟨hother, hticks⟩⟩ := inRegion?_spec hshown
  · rw [if_pos (hsame.trans hzone.symm), decide_eq_true_iff]
  · have hstart : bound.instant =
        bound.clock.ticks - region.offset bound.clock.ticks bound.again := by
      rw [instant, offset, hzone]
    rw [if_neg fun h => hother (h.trans hzone), decide_eq_true_iff, hstart, hticks]
    exact Region.before_reading_iff bound.again honce

end Moment

end FlowDesk.Calendar
