/-
# Yearly changes in order

Two changes that recur every year, one in spring and one in autumn, never come
too close to one another: each falls on one of a few days of the year, however
the week lies, and these days are far apart (`Era.ordered_seasons`). So a region
that goes over to such rules only has to keep its past in order
(`History.sound_of_alternate`).
-/

import FlowDesk.Calendar.Region

namespace FlowDesk.Calendar

/-! ## Days of a year -/

/-- A year has at least 365 days. -/
theorem daysBeforeYear_add_le {year : Nat} (hyear : 1 ≤ year) :
    daysBeforeYear year + 365 ≤ daysBeforeYear (year + 1) := by
  simp only [daysBeforeYear]
  omega

/-- A month begins on the same day of every year, or a day later. -/
theorem daysBeforeMonth_bounds (year month : Nat) :
    daysBeforeMonth 1 month ≤ daysBeforeMonth year month ∧
      daysBeforeMonth year month ≤ daysBeforeMonth 1 month + if 2 < month then 1 else 0 := by
  induction month with
  | zero => exact ⟨Nat.le_refl _, Nat.le_refl _⟩
  | succ month ih =>
    match month, ih with
    | 0, _ => exact ⟨Nat.le_refl _, Nat.le_refl _⟩
    | 1, _ => exact ⟨Nat.le_refl _, Nat.le_refl _⟩
    | 2, _ =>
      simp only [daysBeforeMonth, monthLength]
      cases isLeap year <;> decide
    | month + 3, ih =>
      have hlength : monthLength year (month + 3) = monthLength 1 (month + 3) := by
        unfold monthLength
        split <;> first | rfl | omega
      simp only [daysBeforeMonth] at ih ⊢
      simp only [hlength, show 2 < month + 3 by omega, show 2 < month + 3 + 1 by omega, if_true]
        at ih ⊢
      omega

namespace Yearly

/-- The first day of a common year on which a recurring change may fall. -/
def earliest (rule : Yearly) : Nat := (Date.mk 1 rule.month rule.day).dayNumber

/-- A recurring change falls on one of eight days of every year. -/
theorem dayIn_bounds (rule : Yearly) (year : Nat) :
    daysBeforeYear year + rule.earliest ≤ rule.dayIn year ∧
      rule.dayIn year ≤ daysBeforeYear year + rule.earliest + 7 := by
  obtain ⟨hlow, hhigh⟩ := daysBeforeMonth_bounds year rule.month
  have hfirst : daysBeforeYear 1 = 0 := rfl
  simp only [dayIn, earliest, Date.dayNumber, hfirst]
  split at hhigh <;> omega

/-- Two rules for every year: one for spring and one for autumn. -/
structure Alternate (spring autumn : Yearly) : Prop where
  times : (0 ≤ spring.time ∧ spring.time < fullDay) ∧ 0 ≤ autumn.time ∧ autumn.time < fullDay
  offsets : IsOffset spring.offset ∧ IsOffset autumn.offset
  apart : 1 ≤ spring.earliest ∧ spring.earliest + 10 ≤ autumn.earliest ∧
    autumn.earliest + 9 ≤ 365

/-- The changes of a year stand before those of the later ones. -/
theorem seasons_succ (rules : List Yearly) (first count : Nat) :
    seasons rules first (count + 1) =
      rules.map (·.changeIn first) ++ seasons rules (first + 1) count := by
  simp only [seasons, List.range'_succ, List.flatMap_cons]

end Yearly

namespace Era

/-- Changes in a row are in order when their parts are. -/
theorem ordered_append {era : Era} {earlier later : List Change} (hearlier : era.Ordered earlier)
    (hlater : (earlier.foldl next era).Ordered later) : era.Ordered (earlier ++ later) := by
  induction earlier generalizing era with
  | nil => exact hlater
  | cons change earlier ih => exact ⟨hearlier.1, ih hearlier.2 hlater⟩

variable {spring autumn : Yearly}

/-- **The changes of spring and autumn keep their order**, year by year. -/
theorem ordered_seasons (hrules : spring.Alternate autumn) (count : Nat) {year : Nat}
    (hyear : 1 ≤ year) {era : Era} (hoffset : era.offset = autumn.offset)
    (hover : era.reading false ≤ daysBeforeYear year * fullDay) :
    era.Ordered (Yearly.seasons [spring, autumn] year count) := by
  induction count generalizing year era with
  | zero => trivial
  | succ count ih =>
    obtain ⟨⟨hspring, hautumn⟩, ⟨hshort, hshort'⟩, hapart⟩ := hrules
    have hday := spring.dayIn_bounds year
    have hday' := autumn.dayIn_bounds year
    have hnext := daysBeforeYear_add_le hyear
    have hfull : fullDay = 86400000000 := by decide
    rw [Yearly.seasons_succ]
    simp only [IsOffset, hfull] at hspring hautumn hshort hshort' hover
    refine ⟨?_, ?_, ih (by omega) rfl ?_⟩ <;>
      simp only [reading, next, Yearly.changeIn, Change.at, hoffset, hfull, if_true, if_false,
        Bool.false_eq_true] at hover ⊢ <;>
      omega

end Era

/-- A history is sound when its past is, and is over when two rules for every year take
over. -/
theorem History.sound_of_alternate {history : History} {spring autumn : Yearly}
    (hyearly : history.yearly = [spring, autumn]) (hrules : spring.Alternate autumn)
    (hoffsets : ∀ offset ∈ history.offsets, IsOffset offset ∧ second ∣ offset)
    (hpast : history.firstEra.Ordered history.past) (hsince : 1 ≤ history.since)
    (hlast : (history.past.foldl Era.next history.firstEra).offset = autumn.offset)
    (hover : (history.past.foldl Era.next history.firstEra).reading false ≤
      daysBeforeYear history.since * fullDay) : history.Sound := by
  refine ⟨hoffsets, ?_⟩
  rw [changes, hyearly]
  exact Era.ordered_append hpast (Era.ordered_seasons hrules _ hsince hlast hover)

end FlowDesk.Calendar
