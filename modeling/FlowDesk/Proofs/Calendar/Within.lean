/-
# Staying within the calendar

Arithmetic on clocks may leave the calendar at its ends.  Offsets are shorter
than a day, whether they are written or those of a region (`Iso.read?_offset`,
`Region.offset_bounds`), so a moment a year away from both ends can be shown in
every region, and so can what comes a few days later (`Moment.localIn_of_inner`,
`Moment.later?_of_near`).
-/

import FlowDesk.Operation.Meetings
import FlowDesk.Proofs.Calendar.Days
import FlowDesk.Proofs.Calendar.Gap

namespace FlowDesk.Calendar

/-! ## Offsets -/

/-- A constant offset is one that a zone may have. -/
def Zone.IsOrdinary : Zone → Prop
  | .constant offset => IsOffset offset
  | .region _ => True

namespace Era

/-- The last era has the offset of an era before some changes, or of one of them. -/
theorem offset_latest_mem (begun : Era → Bool) {era : Era} {changes : List Change}
    {offsets : List Int} (hera : era.offset ∈ offsets)
    (hchanges : ∀ change ∈ changes, change.offset ∈ offsets) :
    (era.latest begun changes).offset ∈ offsets := by
  induction changes generalizing era with
  | nil => exact hera
  | cons change later ih =>
    obtain ⟨hchange, hlater⟩ := List.forall_mem_cons.1 hchanges
    rw [latest_cons]
    split
    · exact ih hchange hlater
    · exact hera

end Era

namespace Region

/-- The offsets that a region has at any time. -/
def offsets (region : Region) : List Int := region.history.offsets

/-- These are offsets that a zone may have. -/
theorem isOffset_of_mem {region : Region} : ∀ offset ∈ region.offsets, IsOffset offset :=
  fun offset hoffset => (region.sound.offsets offset hoffset).1

/-- Every era of a region has one of its offsets. -/
theorem offset_era_mem (region : Region) (begun : Era → Bool) :
    (region.history.era begun).offset ∈ region.offsets := by
  rw [History.era_eq]
  refine Era.offset_latest_mem begun List.mem_cons_self fun change hchange => ?_
  rcases List.mem_append.1 hchange with hpast | hyearly
  · exact List.mem_cons_of_mem _ (List.mem_append_left _ (List.mem_map_of_mem hpast))
  · obtain ⟨year, -, hyear⟩ := List.mem_flatMap.1 hyearly
    obtain ⟨rule, hrule, rfl⟩ := List.mem_map.1 hyear
    exact List.mem_cons_of_mem _ (List.mem_append_right _ (List.mem_map_of_mem hrule))

/-- A region has one of its offsets at every reading. -/
theorem offset_mem (region : Region) (reading : Int) (again : Bool) :
    region.offset reading again ∈ region.offsets := region.offset_era_mem _

/-- A region has one of its offsets at every instant. -/
theorem offsetAt_mem (region : Region) (instant : Int) :
    (region.offsetAt instant).1 ∈ region.offsets := region.offset_era_mem _

/-- A region has an ordinary offset at every reading. -/
theorem offset_bounds (region : Region) (reading : Int) (again : Bool) :
    IsOffset (region.offset reading again) :=
  isOffset_of_mem _ (region.offset_mem reading again)

/-- A region has an ordinary offset at every instant. -/
theorem offsetAt_bounds (region : Region) (instant : Int) :
    IsOffset (region.offsetAt instant).1 :=
  isOffset_of_mem _ (region.offsetAt_mem instant)

end Region

/-- The offset of a moment in an ordinary zone is ordinary. -/
theorem Moment.offset_bounds {moment : Moment} (hzone : moment.zone.IsOrdinary) :
    IsOffset moment.offset := by
  unfold Moment.offset
  cases hown : moment.zone with
  | constant offset =>
    rw [hown] at hzone
    exact hzone
  | region region => exact region.offset_bounds _ _

namespace Iso

/-- A written offset is ordinary. -/
theorem timeAndOffset?_offset {cs : List Char} {time offset : Int}
    (hread : timeAndOffset? cs = some (time, some offset)) : IsOffset offset := by
  have hnone : IsOffset 0 := by decide
  unfold timeAndOffset? at hread
  simp only [Option.bind_eq_bind, Option.bind_eq_some_iff] at hread
  obtain ⟨written, -, hread⟩ := hread
  split at hread
  · cases hread
  · split at hread
    · split at hread <;> cases hread
    · split at hread <;> cases hread
      exact hnone
    · rename_i sign rest _ _
      obtain ⟨given, -, hread⟩ := Option.bind_eq_some_iff.1 hread
      split at hread
      · cases hread
      · rename_i hday
        split at hread
        · cases hread
          exact hnone
        · cases hread
          have hshort : given.ticks < fullDay := by
            simp only [Bool.or_eq_true, decide_eq_true_eq, not_or, Int.not_le] at hday
            exact hday.2
          have hpositive : 0 ≤ given.ticks := by
            unfold WrittenTime.ticks hour minute second
            omega
          unfold IsOffset
          split <;> omega

/-- The offset of a written moment is ordinary. -/
theorem read?_offset {s : String} {clock : Clock} {offset : Int}
    (hread : read? s = some (clock, some offset)) : IsOffset offset := by
  unfold read? at hread
  simp only [Option.bind_eq_bind, Option.bind_eq_some_iff] at hread
  obtain ⟨length, -, day, -, hread⟩ := hread
  split at hread
  · obtain ⟨own, -, heq⟩ := Option.map_eq_some_iff.1 hread
    cases heq
  · obtain ⟨⟨time, given⟩, htime, hread⟩ := Option.bind_eq_some_iff.1 hread
    obtain ⟨own, -, heq⟩ := Option.map_eq_some_iff.1 hread
    cases heq
    exact timeAndOffset?_offset htime

end Iso

/-- A moment that was read stands in an ordinary zone, if the zone for readings
without an offset is one. -/
theorem Moment.isOrdinary_of_read? {zone : Zone} (hzone : zone.IsOrdinary) {s : String}
    {moment : Moment} (hread : read? zone s = some moment) : moment.zone.IsOrdinary := by
  obtain ⟨⟨clock, offset⟩, hiso, rfl⟩ := Option.map_eq_some_iff.1 hread
  cases offset with
  | none => exact hzone
  | some offset => exact Iso.read?_offset hiso

/-! ## Inner years -/

/-- A reading of a clock in neither the first nor the last year of the
calendar. -/
def Clock.IsInner (clock : Clock) : Prop := 2 ≤ clock.date.year ∧ clock.date.year ≤ 9998

instance (clock : Clock) : Decidable clock.IsInner := inferInstanceAs (Decidable (_ ∧ _))

/-- Such a reading is a year away from both ends. -/
theorem Clock.IsInner.bounds {clock : Clock} (hinner : clock.IsInner) :
    365 * fullDay ≤ clock.ticks ∧ clock.ticks + 365 * fullDay < clockLimit := by
  obtain ⟨hfirst, hlast⟩ := hinner
  obtain ⟨hlow, hhigh⟩ := clock.year_bounds
  have hsecond := daysBeforeYear_le hfirst
  have hnext : daysBeforeYear (clock.date.year + 1) ≤ daysBeforeYear (9998 + 1) :=
    daysBeforeYear_le (Nat.succ_le_succ hlast)
  have htwo : daysBeforeYear 2 = 365 := by decide
  have hend : daysBeforeYear (9998 + 1) = 3651694 := by decide
  have hlimit : clockLimit = 3652059 * fullDay := by decide
  rw [htwo] at hsecond
  rw [hend] at hnext
  rw [hlimit, fullDay_eq]
  rw [fullDay_eq] at hlow hhigh
  omega

/-- Readings within the calendar are readings of a clock. -/
theorem Clock.exists_ofTicks? {ticks : Int} (hlow : 0 ≤ ticks) (hhigh : ticks < clockLimit) :
    ∃ clock, ofTicks? ticks = some clock ∧ clock.ticks = ticks :=
  ⟨⟨ticks, hlow, hhigh⟩, dif_pos ⟨hlow, hhigh⟩, rfl⟩

namespace Moment

variable {moment : Moment}

/-- An inner moment has a reading in every region, less than two days from its
own. -/
theorem localIn_of_inner (hzone : moment.zone.IsOrdinary) (hinner : moment.clock.IsInner)
    (region : Region) :
    ∃ shown, moment.localIn region = .ok shown ∧
      shown.clock.ticks < moment.clock.ticks + 2 * fullDay := by
  obtain ⟨hlow, hhigh⟩ := hinner.bounds
  obtain ⟨hleast, hgreatest⟩ := offset_bounds hzone
  unfold localIn inRegion?
  by_cases hsame : moment.zone = .region region
  · rw [if_pos hsame]
    have hfull : 0 < fullDay := by decide
    exact ⟨moment, rfl, by omega⟩
  · rw [if_neg hsame]
    obtain ⟨universal, huniversal, hticks⟩ : ∃ clock, Clock.ofTicks? moment.instant = some clock ∧
        clock.ticks = moment.instant :=
      Clock.exists_ofTicks? (by unfold instant; omega) (by unfold instant; omega)
    obtain ⟨hleast', hgreatest'⟩ := region.offsetAt_bounds universal.ticks
    obtain ⟨clock, hclock, hreading⟩ : ∃ clock,
        Clock.ofTicks? (universal.ticks + (region.offsetAt universal.ticks).1) = some clock ∧
          clock.ticks = universal.ticks + (region.offsetAt universal.ticks).1 :=
      Clock.exists_ofTicks? (by unfold instant at hticks; omega)
        (by unfold instant at hticks; omega)
    refine ⟨⟨clock, .region region, (region.offsetAt universal.ticks).2⟩, ?_, ?_⟩
    · rw [huniversal, Option.bind_some]
      dsimp only
      rw [hclock]
      rfl
    · rw [hreading]
      unfold instant at hticks
      omega

/-- A moment far enough from the end of the calendar has a reading some time
later. -/
theorem later?_of_near {ticks : Int} (hticks : 0 ≤ ticks)
    (hend : moment.clock.ticks + ticks < clockLimit) :
    ∃ later, moment.later? ticks = some later := by
  obtain ⟨clock, hclock, -⟩ :=
    Clock.exists_ofTicks? (Int.add_nonneg moment.clock.notEarlier hticks) hend
  exact ⟨⟨clock, moment.zone, false⟩, by rw [later?, hclock, Option.map_some]⟩

end Moment

end FlowDesk.Calendar
