/-
# The eras of a clock

The changes of a region's clock are looked through one by one, from the first on, for the
last era that has begun.  Instead of years that are unfolded as they are needed, it is
enough to think of all changes in a row (`History.era_eq`).

Eras that are in order follow one another at both showings of a reading.  So when a
reading is before an era at its first showing, then at its second one it is at most in
this era (`Era.latest_again`): the two showings of a reading are never more than one
change apart.
-/

import FlowDesk.Calendar.Region

namespace FlowDesk.Calendar

namespace Era

variable {begun : Era → Bool} {era : Era} {change : Change} {later changes : List Change}

/-! ## The last era that has begun -/

/-- The last era to have begun, among an era and those that some changes begin after it. -/
def latest (era : Era) (begun : Era → Bool) (changes : List Change) : Era :=
  era.through begun id changes

@[simp] theorem latest_nil : era.latest begun [] = era := rfl

theorem latest_cons : era.latest begun (change :: later) =
    if begun (era.next change) then (era.next change).latest begun later else era := rfl

theorem latest_of_begun (hbegun : begun (era.next change) = true) :
    era.latest begun (change :: later) = (era.next change).latest begun later := if_pos hbegun

theorem latest_of_not_begun (hbegun : begun (era.next change) = false) :
    era.latest begun (change :: later) = era := by
  rw [latest_cons, hbegun]
  rfl

/-- What is sought after some changes is sought among those that follow. -/
theorem through_latest (era : Era) (begun : Era → Bool) (earlier later : List Change) :
    era.through begun (·.latest begun later) earlier = era.latest begun (earlier ++ later) := by
  induction earlier generalizing era with
  | nil => rfl
  | cons change earlier ih =>
    rw [through, List.cons_append, latest_cons, ih]

/-- An era that has begun is followed by such eras only. -/
theorem begun_latest (begun : Era → Bool) (hera : begun era = true) (changes : List Change) :
    begun (era.latest begun changes) = true := by
  induction changes generalizing era with
  | nil => exact hera
  | cons change later ih =>
    rw [latest_cons]
    split
    · exact ih ‹_›
    · exact hera

end Era

namespace History

variable (history : History) (begun : Era → Bool)

/-- Years that are unfolded one by one are changes in a row. -/
theorem eraFrom_eq (years year : Nat) (era : Era) : history.eraFrom begun years year era =
    era.latest begun (Yearly.seasons history.yearly year years) := by
  induction years generalizing year era with
  | zero => rfl
  | succ years ih =>
    have honward : history.eraFrom begun years (year + 1) =
        (·.latest begun (Yearly.seasons history.yearly (year + 1) years)) :=
      funext fun era => ih (year + 1) era
    rw [eraFrom, honward, Era.through_latest, Yearly.seasons, Yearly.seasons, List.range'_succ,
      List.flatMap_cons]

/-- The last era to have begun is sought among all changes. -/
theorem era_eq : history.era begun = history.firstEra.latest begun history.changes := by
  have honward : history.eraFrom begun (lastYear + 1 - history.since) history.since =
      (·.latest begun (Yearly.seasons history.yearly history.since
        (lastYear + 1 - history.since))) :=
    funext (history.eraFrom_eq begun _ _)
  rw [era, honward, Era.through_latest, changes]

end History

namespace Era

variable {era : Era} {change : Change} {later changes : List Change} {reading : Int}

/-! ## Eras in order -/

/-- The first showing of a reading counts as before a change for longer than the second. -/
theorem reading_le (era : Era) (again : Bool) :
    era.reading true ≤ era.reading again ∧ era.reading again ≤ era.reading false := by
  cases again <;> simp only [Era.reading, if_true, if_false, Bool.false_eq_true] <;> omega

/-- What an era first shows is not before its second showings, and what is last shown before
it is not after its first ones. -/
theorem reading_bounds (era : Era) :
    era.reading true ≤ era.start + era.offset ∧ era.start + era.before ≤ era.reading false := by
  simp only [Era.reading, if_true, if_false, Bool.false_eq_true]
  omega

/-- The last era that counts at a reading, if there is one, counts at it. -/
theorem reading_latest {again : Bool} (hreading : era.reading again ≤ reading)
    (changes : List Change) :
    (era.latest (fun era => era.reading again ≤ reading) changes).reading again ≤ reading :=
  of_decide_eq_true
    (begun_latest (fun era => era.reading again ≤ reading) (decide_eq_true hreading) changes)

/-- The last era that has started at an instant, if there is one, has started. -/
theorem start_latest {instant : Int} (hstart : era.start ≤ instant) (changes : List Change) :
    (era.latest (fun era => era.start ≤ instant) changes).start ≤ instant :=
  of_decide_eq_true
    (begun_latest (fun era => era.start ≤ instant) (decide_eq_true hstart) changes)

/-- A reading that counts as one of an era is shown after the era has started. -/
theorem start_le_of_reading (hreading : era.reading false ≤ reading) :
    era.start ≤ reading - era.offset := by
  simp only [Era.reading, if_false, Bool.false_eq_true] at hreading
  omega

/-- The first showing of a reading in an era that comes before the next one. -/
theorem lt_next_of_reading (hreading : reading < (era.next change).reading false)
    (hkept : change.offset ≤ era.offset) : reading - era.offset < change.instant := by
  simp only [Era.reading, next, if_false, Bool.false_eq_true] at hreading
  omega

/-- The second showing of a reading in an era that comes before the next one. -/
theorem lt_next_of_reading_again (hreading : reading < (era.next change).reading true) :
    reading - era.offset < change.instant := by
  simp only [Era.reading, next, if_true] at hreading
  omega

/-- An era that is in order starts before the next one, and counts from earlier readings. -/
theorem Ordered.le_next (hordered : era.Ordered (change :: later)) :
    era.start ≤ change.instant ∧ ∀ again, era.reading again ≤ (era.next change).reading again := by
  have hover := hordered.1
  refine ⟨?_, fun again => ?_⟩
  · simp only [reading, next, if_true, if_false, Bool.false_eq_true] at hover
    omega
  · exact Int.le_trans (era.reading_le again).2
      (Int.le_trans hover ((era.next change).reading_le again).1)

/-- An era that is in order starts no later than the last one that has begun, and counts
from readings that are no later. -/
theorem Ordered.le_latest (hordered : era.Ordered changes) (begun : Era → Bool) :
    era.start ≤ (era.latest begun changes).start ∧
      ∀ again, era.reading again ≤ (era.latest begun changes).reading again := by
  induction changes generalizing era with
  | nil => exact ⟨Int.le_refl _, fun _ => Int.le_refl _⟩
  | cons change later ih =>
    obtain ⟨hstart, hreading⟩ := hordered.le_next
    obtain ⟨hstart', hreading'⟩ := ih hordered.2
    rw [latest_cons]
    split
    · exact ⟨Int.le_trans hstart hstart', fun again =>
        Int.le_trans (hreading again) (hreading' again)⟩
    · exact ⟨Int.le_refl _, fun _ => Int.le_refl _⟩

/-- A reading that is before an era at its first showing is at most in this era at its
second one. -/
theorem latest_again (hordered : era.Ordered (change :: later))
    (hreading : reading < (era.next change).reading false) :
    era.latest (fun era => era.reading true ≤ reading) (change :: later) =
      if (era.next change).reading true ≤ reading then era.next change else era := by
  rw [latest_cons]
  simp only [decide_eq_true_eq]
  congr 1
  cases later with
  | nil => rfl
  | cons change' later =>
    have hover := hordered.2.1
    exact latest_of_not_begun (decide_eq_false (by omega))

/-- A reading that is shown once, and before an era at its first showing, is before it. -/
theorem lt_reading_of_once (hordered : era.Ordered (change :: later))
    (hreading : reading < (era.next change).reading false)
    (honce : era.offset =
      (era.latest (fun era => era.reading true ≤ reading) (change :: later)).offset) :
    reading < (era.next change).reading true := by
  rw [latest_again hordered hreading] at honce
  split at honce
  · change era.offset = change.offset at honce
    simp only [Era.reading, next, if_true, if_false, Bool.false_eq_true] at hreading ⊢
    omega
  · omega

/-- A reading that is before an era at its first showing, and that is not skipped, is shown
before this era starts. -/
theorem lt_next_of_kept (hordered : era.Ordered (change :: later))
    (hreading : reading < (era.next change).reading false)
    (hkept : (era.latest (fun era => era.reading true ≤ reading) (change :: later)).offset ≤
      era.offset) : reading - era.offset < change.instant := by
  rw [latest_again hordered hreading] at hkept
  split at hkept
  · exact lt_next_of_reading hreading hkept
  · exact lt_next_of_reading_again (by omega)

end Era

end FlowDesk.Calendar
