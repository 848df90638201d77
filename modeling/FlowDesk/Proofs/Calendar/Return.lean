/-
# From instants to readings and back

An instant is shown as a reading with an offset, and the reading less the offset is the
instant.  The offset can also be told from the reading, if it is known which showing of it
is meant: it is the same one (`Region.offset_offsetAt`).  And a reading that the clock
does not skip leads to an instant with its own offset (`Region.offsetAt_offset`).

So a moment that is shown in a region and written down comes back as it was shown, when
what was written is read and shown there again (`Moment.localIn_text`).
-/

import FlowDesk.Proofs.Calendar.Midnight
import FlowDesk.Proofs.Calendar.Written

namespace FlowDesk.Calendar

namespace Era

variable {era : Era} {changes : List Change} {instant reading : Int}

/-- A reading that is shown in an era counts as one of it. -/
theorem reading_le_of_start (hstart : era.start ≤ instant) :
    era.reading (era.repeats instant) ≤ instant + era.offset := by
  by_cases hrepeats : instant < era.start + (era.before - era.offset) <;>
    simp only [repeats, hrepeats, decide_true, decide_false, Era.reading, if_true, if_false,
      Bool.false_eq_true] <;>
    omega

/-- The era of an instant is that of its reading. -/
theorem latest_of_instant (hordered : era.Ordered changes) (hstart : era.start ≤ instant)
    {last : Era} (hlast : era.latest (fun era => era.start ≤ instant) changes = last) :
    era.latest (fun era => era.reading (last.repeats instant) ≤ instant + last.offset) changes =
      last := by
  induction changes generalizing era with
  | nil => exact hlast
  | cons change later ih =>
    by_cases hnext : (era.next change).start ≤ instant
    · rw [latest_of_begun (decide_eq_true hnext)] at hlast
      have hfirst := (hordered.2.le_latest fun era => era.start ≤ instant).2
        (last.repeats instant)
      have hstarted := start_latest hnext later
      rw [hlast] at hfirst hstarted
      have hreading := Int.le_trans hfirst (reading_le_of_start hstarted)
      rw [latest_of_begun (decide_eq_true hreading)]
      exact ih hordered.2 hnext hlast
    · rw [latest_of_not_begun (decide_eq_false hnext)] at hlast
      subst hlast
      have hover := hordered.1
      have hbounds := (era.next change).reading_bounds.2
      refine latest_of_not_begun (decide_eq_false ?_)
      by_cases hrepeats : instant < era.start + (era.before - era.offset)
      · simp only [repeats, hrepeats, decide_true]
        have hbounds := era.reading_bounds.2
        omega
      · simp only [repeats, hrepeats, decide_false]
        simp only [next] at hnext hbounds ⊢
        omega

/-- The era of a reading that is not skipped is that of its instant. -/
theorem latest_of_reading (hordered : era.Ordered changes) {last : Era}
    (hlast : era.latest (fun era => era.reading false ≤ reading) changes = last)
    (hkept : (era.latest (fun era => era.reading true ≤ reading) changes).offset ≤ last.offset) :
    era.latest (fun era => era.start ≤ reading - last.offset) changes = last := by
  induction changes generalizing era with
  | nil => exact hlast
  | cons change later ih =>
    by_cases hnext : (era.next change).reading false ≤ reading
    · have hagain := Int.le_trans ((era.next change).reading_le false).1 hnext
      rw [latest_of_begun (decide_eq_true hnext)] at hlast
      rw [latest_of_begun (decide_eq_true hagain)] at hkept
      have hfirst := (hordered.2.le_latest fun era => era.reading false ≤ reading).1
      have hcounts := start_le_of_reading (reading_latest hnext later)
      rw [hlast] at hfirst hcounts
      rw [latest_of_begun (decide_eq_true (Int.le_trans hfirst hcounts))]
      exact ih hordered.2 hlast hkept
    · rw [latest_of_not_begun (decide_eq_false hnext)] at hlast
      subst hlast
      have hbefore := lt_next_of_kept hordered (Int.not_le.1 hnext) hkept
      exact latest_of_not_begun (decide_eq_false (Int.not_le.2 hbefore))

end Era

namespace Region

/-- The offset of an instant can be told from its reading. -/
theorem offset_offsetAt (region : Region) {instant : Int} (hinstant : 0 ≤ instant) :
    region.offset (instant + (region.offsetAt instant).1) (region.offsetAt instant).2 =
      (region.offsetAt instant).1 := by
  rw [offset_eq, offsetAt, eraAt, History.era_eq,
    Era.latest_of_instant region.sound.ordered hinstant rfl]

/-- The instant of a reading that is not skipped has the offset of the reading. -/
theorem offsetAt_offset (region : Region) {reading : Int} (hskips : ¬ region.Skips reading) :
    (region.offsetAt (reading - region.offset reading false)).1 = region.offset reading false := by
  rw [Skips, Int.not_lt, offset_eq, offset_eq] at hskips
  rw [offset_eq, offsetAt, eraAt, History.era_eq,
    Era.latest_of_reading region.sound.ordered rfl hskips]

/-- Offsets are given in whole seconds. -/
theorem whole_of_mem {region : Region} : ∀ offset ∈ region.offsets,
    offset = 0 ∨ second ≤ offset.natAbs := by
  intro offset hoffset
  have hwhole : (1000000 : Int) ∣ offset := (region.sound.offsets offset hoffset).2
  have hsecond : second = 1000000 := rfl
  omega

end Region

/-! ## Moments -/

namespace Moment

variable {moment shown : Moment} {region : Region}

/-- A moment of another zone is shown at the reading of its instant, for the first time or
again. -/
theorem inRegion?_of_other (hother : moment.zone ≠ .region region) :
    moment.inRegion? region =
      (Clock.ofTicks? moment.instant).bind fun _ =>
        (Clock.ofTicks? (moment.instant + (region.offsetAt moment.instant).1)).map fun clock =>
          ⟨clock, .region region, (region.offsetAt moment.instant).2⟩ := by
  rw [inRegion?, if_neg hother]
  cases huniversal : Clock.ofTicks? moment.instant with
  | none => rfl
  | some universal => rw [Option.bind_some, Option.bind_some, Clock.ticks_of_ofTicks? huniversal]

/-- A moment that is shown in a region has the offset of its instant there, at whichever
showing of the reading that instant is. -/
theorem offset_of_shown (hshown : moment.inRegion? region = some shown)
    (hown : moment.zone = .region region →
      moment.again = false ∧ ¬ region.Skips moment.clock.ticks)
    (hinstant : 0 ≤ moment.instant) :
    shown.offset = (region.offsetAt moment.instant).1 ∧ shown.instant = moment.instant ∧
      region.offset shown.clock.ticks (region.offsetAt moment.instant).2 = shown.offset := by
  have hreturn := region.offset_offsetAt hinstant
  by_cases hzone : moment.zone = .region region
  · obtain ⟨hfirst, hskips⟩ := hown hzone
    rw [inRegion?, if_pos hzone] at hshown
    cases hshown
    have hoffset : moment.offset = region.offset moment.clock.ticks false := by
      rw [offset, hzone, hfirst]
    have hsame : (region.offsetAt moment.instant).1 = moment.offset := by
      rw [instant, hoffset]
      exact region.offsetAt_offset hskips
    have hticks : moment.instant + moment.offset = moment.clock.ticks := Int.sub_add_cancel _ _
    rw [hsame, hticks] at hreturn
    exact ⟨hsame.symm, rfl, hreturn⟩
  · rw [inRegion?_of_other hzone] at hshown
    obtain ⟨_, -, hshown⟩ := Option.bind_eq_some_iff.1 hshown
    obtain ⟨clock, hclock, rfl⟩ := Option.map_eq_some_iff.1 hshown
    have hticks := Clock.ticks_of_ofTicks? hclock
    rw [← hticks] at hreturn
    refine ⟨hreturn, ?_, rfl⟩
    change clock.ticks - region.offset clock.ticks _ = moment.instant
    rw [hreturn, hticks]
    exact Int.add_sub_cancel _ _

/-- **What is shown comes back.**  A moment that is shown in a region, written, read, and
shown there again has the same reading and the same offset, unless its own reading is one
that the clock of the region skips. -/
theorem localIn_text (hshown : moment.localIn region = .ok shown)
    (hown : moment.zone = .region region →
      moment.again = false ∧ ¬ region.Skips moment.clock.ticks)
    (hinner : 0 ≤ moment.instant ∧ moment.instant < clockLimit) :
    ∃ read back, readLocal? region (Iso.text shown) = some read ∧
      read.localIn region = .ok back ∧ back.clock = shown.clock ∧ back.offset = shown.offset := by
  have hregion := localIn_eq_ok_iff.1 hshown
  obtain ⟨hoffset, hinstant, hreturn⟩ := offset_of_shown hregion hown hinner.1
  have hmem : shown.offset ∈ region.offsets := by
    rw [hoffset]
    exact region.offsetAt_mem _
  let read : Moment := ⟨shown.clock, .constant shown.offset, false⟩
  have hread : readLocal? region (Iso.text shown) = some read :=
    readLocal?_text (Region.isOffset_of_mem _ hmem) (Region.whole_of_mem _ hmem) region
  have hsame : read.instant = moment.instant := hinstant
  have hticks : moment.instant + (region.offsetAt moment.instant).1 = shown.clock.ticks := by
    rw [← hoffset, ← hinstant]
    exact Int.sub_add_cancel _ _
  have huniversal : Clock.ofTicks? moment.instant = some ⟨moment.instant, hinner.1, hinner.2⟩ :=
    dif_pos hinner
  have hclock : Clock.ofTicks? shown.clock.ticks = some shown.clock :=
    dif_pos ⟨shown.clock.notEarlier, shown.clock.notLater⟩
  refine ⟨read, ⟨shown.clock, .region region, (region.offsetAt moment.instant).2⟩, hread, ?_, rfl,
    hreturn⟩
  rw [localIn_eq_ok_iff, inRegion?_of_other (by simp [read]), hsame, huniversal, hticks, hclock]
  rfl

end Moment

end FlowDesk.Calendar
