/-
# Readings that a clock skips

A clock that is set forward skips some readings.  A moment may name one of them
all the same, and then its instant is that of a later reading.  Apart from such
moments the readings of a region's clock, each taken when it is first shown,
follow one another like their instants (`Region.instant_lt`), and so the order
of moments is that of their instants, whichever way they are compared
(`Moment.before_iff`).
-/

import FlowDesk.Calendar.Moment
import FlowDesk.Proofs.Calendar.Eras
import Mathlib.Tactic.ByContra

namespace FlowDesk.Calendar

/-! ## Gaps -/

namespace Era

variable {era : Era} {changes : List Change} {earlier later : Int}

/-- Readings that are not skipped follow one another like their instants. -/
theorem instant_lt (hordered : era.Ordered changes) (hlt : earlier < later)
    (hkept : (era.latest (fun era => era.reading true ≤ earlier) changes).offset ≤
      (era.latest (fun era => era.reading false ≤ earlier) changes).offset) :
    earlier - (era.latest (fun era => era.reading false ≤ earlier) changes).offset <
      later - (era.latest (fun era => era.reading false ≤ later) changes).offset := by
  induction changes generalizing era with
  | nil => exact Int.sub_lt_sub_right hlt _
  | cons change rest ih =>
    by_cases hearlier : (era.next change).reading false ≤ earlier
    · have hagain := Int.le_trans ((era.next change).reading_le false).1 hearlier
      have hlater := Int.le_trans hearlier (Int.le_of_lt hlt)
      rw [latest_of_begun (decide_eq_true hagain),
        latest_of_begun (decide_eq_true hearlier)] at hkept
      rw [latest_of_begun (decide_eq_true hearlier), latest_of_begun (decide_eq_true hlater)]
      exact ih hordered.2 hkept
    · have hstay : era.latest (fun era => era.reading false ≤ earlier) (change :: rest) = era :=
        latest_of_not_begun (decide_eq_false hearlier)
      rw [hstay] at hkept ⊢
      by_cases hlater : (era.next change).reading false ≤ later
      · have hbefore := lt_next_of_kept hordered (Int.not_le.1 hearlier) hkept
        have hstart := (hordered.2.le_latest fun era => era.reading false ≤ later).1
        have hafter := start_le_of_reading (reading_latest hlater rest)
        rw [latest_of_begun (decide_eq_true hlater)]
        exact Int.lt_of_lt_of_le hbefore (Int.le_trans hstart hafter)
      · rw [latest_of_not_begun (decide_eq_false hlater)]
        exact Int.sub_lt_sub_right hlt _

end Era

namespace Region

/-- The readings that a region's clock skips: the offset at such a reading is that of
before the change, unless the second showing is meant, and this one is greater. -/
def Skips (region : Region) (reading : Int) : Prop :=
  region.offset reading false < region.offset reading true

instance (region : Region) (reading : Int) : Decidable (region.Skips reading) :=
  inferInstanceAs (Decidable (_ < _))

/-- The readings that a region's clock skips when daylight time begins. -/
def SkipsInSpring (region : Region) (reading : Int) : Prop :=
  region.Skips reading ∧ (region.eraOf reading true).daylight

instance (region : Region) (reading : Int) : Decidable (region.SkipsInSpring reading) :=
  inferInstanceAs (Decidable (_ ∧ _))

/-- The offset of a region at a reading is that of the last era to have begun. -/
theorem offset_eq (region : Region) (reading : Int) (again : Bool) :
    region.offset reading again = (region.history.firstEra.latest
      (fun era => era.reading again ≤ reading) region.history.changes).offset := by
  rw [offset, eraOf, History.era_eq]

/-- Readings that are not skipped follow one another like their instants. -/
theorem instant_lt (region : Region) {earlier later : Int} (hlt : earlier < later)
    (hskips : ¬ region.Skips earlier) :
    earlier - region.offset earlier false < later - region.offset later false := by
  rw [Skips, Int.not_lt] at hskips
  simp only [offset_eq] at hskips ⊢
  exact Era.instant_lt region.sound.ordered hlt hskips

end Region

/-! ## The order of moments -/

namespace Moment

/-- A moment whose reading is shown for the first time, and is not skipped. -/
def Shown (moment : Moment) : Prop :=
  moment.again = false ∧ ∀ region, moment.zone = .region region → ¬ region.Skips moment.clock.ticks

/-- Two moments of one zone follow one another like their instants. -/
theorem instant_lt_of_ticks_lt {a b : Moment} (ha : a.Shown) (hb : b.Shown)
    (hzone : a.zone = b.zone) (hlt : a.clock.ticks < b.clock.ticks) : a.instant < b.instant := by
  unfold instant offset
  rw [← hzone]
  cases hregion : a.zone with
  | constant offset => exact Int.sub_lt_sub_right hlt offset
  | region region =>
    rw [ha.1, hb.1]
    exact region.instant_lt hlt (ha.2 region hregion)

/-- The order of moments that are shown is that of their instants. -/
theorem before_iff {a b : Moment} (ha : a.Shown) (hb : b.Shown) :
    a.before b = true ↔ a.instant < b.instant := by
  unfold before
  by_cases hzone : a.zone = b.zone
  · rw [if_pos hzone, decide_eq_true_iff]
    refine ⟨instant_lt_of_ticks_lt ha hb hzone, fun hlt => ?_⟩
    by_contra hticks
    rcases Int.lt_or_eq_of_le (Int.not_lt.1 hticks) with hticks | hticks
    · have := instant_lt_of_ticks_lt hb ha hzone.symm hticks
      omega
    · have hsame : a.instant = b.instant := by
        unfold instant offset
        rw [hzone, ha.1, hb.1, hticks]
      omega
  · rw [if_neg hzone, decide_eq_true_iff]

end Moment

end FlowDesk.Calendar
