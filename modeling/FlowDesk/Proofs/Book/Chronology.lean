/-
# Meetings in the order of time

A book keeps its meetings in the order in which their starts compare.  Starts in
one zone compare by the readings of its clock, all others by instants.  The two
ways disagree only around a reading that the clock skips
(`Calendar.Moment.Mistold.skips`); a seed in which no start is told wrong of
another is listed in the order of time, for every advisor, all bounds and every
client (`listing_in_time_order`).  One such pair is enough to lose that order.
-/

import FlowDesk.Bundled.Regions
import FlowDesk.Proofs.Book.Isolation

namespace FlowDesk

open Calendar

/-! ## Comparing starts -/

namespace Calendar.Moment

variable {a b : Moment}

/-- A moment is told to come before another although it is no earlier. -/
def Mistold (a b : Moment) : Prop := a.before b = true ∧ b.instant ≤ a.instant

instance (a b : Moment) : Decidable (a.Mistold b) := inferInstanceAs (Decidable (_ ∧ _))

/-- First showings are told wrong only on the clock of a region, where it skips
the reading of the one that is put first. -/
theorem Mistold.skips (hmistold : a.Mistold b) (ha : a.again = false) (hb : b.again = false) :
    ∃ region, a.zone = .region region ∧ b.zone = .region region ∧
      region.Skips a.clock.ticks := by
  obtain ⟨hbefore, hle⟩ := hmistold
  unfold before at hbefore
  split at hbefore
  · next hzone =>
    rw [decide_eq_true_iff] at hbefore
    unfold instant offset at hle
    rw [← hzone] at hle
    cases hregion : a.zone with
    | constant offset =>
      rw [hregion] at hle
      dsimp only at hle
      omega
    | region region =>
      refine ⟨region, rfl, hzone ▸ hregion, ?_⟩
      rw [hregion, ha, hb] at hle
      by_contra hshown
      exact absurd (region.instant_lt hbefore hshown) (Int.not_lt.2 hle)
  · rw [decide_eq_true_iff] at hbefore
    omega

/-- Half past two is skipped in Rome in spring: its instant is that of half past
three. -/
example : Mistold ⟨⟨63910348200000000, by decide, by decide⟩, .region .rome, false⟩
    ⟨⟨63910350600000000, by decide, by decide⟩, .region .rome, false⟩ := by
  decide +kernel

/-- First showings that are not told wrong of each other compare like their
instants. -/
theorem before_iff_of_not_mistold (ha : a.again = false) (hb : b.again = false)
    (hab : ¬ a.Mistold b) (hba : ¬ b.Mistold a) :
    a.before b = true ↔ a.instant < b.instant := by
  refine ⟨fun hbefore => Int.not_le.1 fun hle => hab ⟨hbefore, hle⟩, fun hlt => ?_⟩
  by_contra hnot
  unfold before at hnot
  split at hnot
  · next hzone =>
    rw [decide_eq_true_iff] at hnot
    rcases Int.lt_or_eq_of_le (Int.not_lt.1 hnot) with hticks | hticks
    · refine hba ⟨?_, Int.le_of_lt hlt⟩
      rw [before, if_pos hzone.symm, decide_eq_true_iff]
      exact hticks
    · have hsame : a.instant = b.instant := by
        unfold instant offset
        rw [hzone, ha, hb, hticks]
      omega
  · exact hnot (decide_eq_true hlt)

end Calendar.Moment

namespace Sorting

/-- Of two items of which the second comes before the first, the sorted list
begins with the second. -/
theorem sort_pair {α : Type} {before : α → α → Bool} {x y : α} (hbefore : before y x = true) :
    sort before [x, y] = [y, x] := by
  have hruns : runs before (leastRun 2) 2 [x, y] = [[y, x]] := by
    simp [runs, firstRun, goOn, insertAll, hbefore]
  simp [sort, hruns, push, mergeAll]

end Sorting

/-! ## Listings -/

namespace Records

/-- No start of a meeting is told wrong of another. -/
def NoneMistold (records : Records) : Prop :=
  ∀ a ∈ records.meetings, ∀ b ∈ records.meetings, ¬ a.start.Mistold b.start

instance (records : Records) : Decidable records.NoneMistold :=
  inferInstanceAs (Decidable (∀ a ∈ _, ∀ b ∈ _, _))

/-- An advisor's meetings that are asked for, in file order. -/
def asked (records : Records) (advisor : Value) (span : Book.Span) : List Meeting :=
  records.meetings.filter fun meeting => meeting.advisor.same advisor && span.covers meeting

end Records

/-- A listing of some meetings in the order of time: each of them as often as it
is asked for, by the instants of their starts, those that start together in the
order in which they are given. -/
structure InTimeOrder (listed asked : List Meeting) : Prop where
  each : listed.Perm asked
  rising : listed.Pairwise fun a b => a.start.instant ≤ b.start.instant
  together : Sorting.Stably (fun meeting => meeting.start.instant) listed asked

/-- The order of time leaves no choice. -/
theorem InTimeOrder.unique {first second asked : List Meeting} (hfirst : InTimeOrder first asked)
    (hsecond : InTimeOrder second asked) : first = second :=
  Sorting.eq_of_ordered (P := fun _ => True) ⟨fun _ _ => trivial, hfirst.rising⟩
    ⟨fun _ _ => trivial, hsecond.rising⟩ (hfirst.together.trans hsecond.together.symm)

/-- A pair that is told wrong is not in the order of time. -/
theorem not_inTimeOrder_pair {a b : Meeting} (hmistold : a.start.Mistold b.start) :
    ¬ InTimeOrder [a, b] [b, a] := by
  intro horder
  have hle : a.start.instant ≤ b.start.instant := List.rel_of_pairwise_cons horder.rising (by simp)
  have hsame : b.start.instant = a.start.instant := Int.le_antisymm hmistold.2 hle
  have hlevel := horder.together a.start.instant
  simp only [Sorting.level_cons, hsame, if_true, Sorting.level_nil, List.cons.injEq] at hlevel
  obtain ⟨rfl, -⟩ := hlevel
  have hbefore := hmistold.1
  simp [Moment.before] at hbefore

namespace Book

variable {zone : Zone} {seed : Value} {records : Records}

/-- The starts of a seed are first showings, on the zone's clock or at a constant
offset. -/
theorem start_of_records (hrecords : Book.records zone seed = .ok records) :
    ∀ meeting ∈ records.meetings, meeting.start.again = false ∧
      (meeting.start.zone = zone ∨ ∃ offset, meeting.start.zone = .constant offset) := by
  intro meeting hmem
  obtain ⟨v, hmeeting⟩ := meetings_of_records hrecords meeting hmem
  obtain ⟨s, hread⟩ := read?_of_meeting hmeeting
  exact zone_of_read? hread

/-- Starts of which none is told wrong are ranked by their instants. -/
theorem ranks_of_noneMistold (hrecords : Book.records zone seed = .ok records)
    (hnone : records.NoneMistold) :
    Sorting.Ranks startsBefore (fun meeting => meeting.start.instant) (· ∈ records.meetings) :=
  fun a b ha hb => Moment.before_iff_of_not_mistold (start_of_records hrecords a ha).1
    (start_of_records hrecords b hb).1 (hnone a ha b hb) (hnone b hb a ha)

/-- A book of records lists every meeting that is asked for. -/
theorem meetingsOf_perm (records : Records) (advisor : Value) (span : Span) :
    (records.book.meetingsOf advisor span).Perm (records.asked advisor span) :=
  (Sorting.sort_perm startsBefore records.meetings).filter _

/-- Records of which none is told wrong are listed in the order of time. -/
theorem meetingsOf_inTimeOrder (hrecords : Book.records zone seed = .ok records)
    (hnone : records.NoneMistold) (advisor : Value) (span : Span) :
    InTimeOrder (records.book.meetingsOf advisor span) (records.asked advisor span) := by
  obtain ⟨hordered, hstably⟩ := Sorting.sort_stable (ranks_of_noneMistold hrecords hnone)
    fun _ hmem => hmem
  exact
    { each := meetingsOf_perm records advisor span
      rising := (hordered.sublist List.filter_sublist).rising
      together := hstably.filter _ }

/-- Within bounds that are moments there is an answer: the meetings that they ask
for. -/
theorem meetingsWithin?_moments (book : Book) (advisor client : Value)
    (start finish : Option Moment) :
    book.meetingsWithin? advisor client (start.map .moment) (finish.map .moment) =
      some (book.meetingsOf advisor ⟨start, finish, client⟩) := by
  cases start <;> cases finish <;> rfl

/-- More meetings are asked for without one of the bounds. -/
theorem meetingsOf_eq_nil {book : Book} {advisor : Value} {wide span : Span}
    (hwide : book.meetingsOf advisor wide = [])
    (hcovers : ∀ meeting, span.covers meeting = true → wide.covers meeting = true) :
    book.meetingsOf advisor span = [] := by
  rw [meetingsOf, List.filter_eq_nil_iff] at hwide ⊢
  intro meeting hmem hasked
  rw [Bool.and_eq_true] at hasked
  exact hwide meeting hmem (by rw [hasked.1, hcovers meeting hasked.2]; rfl)

/-- A bound that is no moment is answered only where it bounds nothing. -/
theorem meetingsWithin?_eq_some {book : Book} {advisor client : Value}
    {start finish : Option Bound} {listed : List Meeting}
    (hlisted : book.meetingsWithin? advisor client start finish = some listed) :
    listed =
      book.meetingsOf advisor ⟨start.bind Bound.moment?, finish.bind Bound.moment?, client⟩ := by
  unfold meetingsWithin? at hlisted
  dsimp only at hlisted
  split at hlisted
  · split at hlisted
    · next hempty =>
      cases hlisted
      refine (meetingsOf_eq_nil (List.isEmpty_iff.1 hempty) fun meeting hcovers => ?_).symm
      simp only [Span.covers, Bool.and_eq_true] at hcovers ⊢
      exact ⟨⟨hcovers.1.1, rfl⟩, rfl⟩
    · cases hlisted
  · split at hlisted
    · next hempty =>
      cases hlisted
      exact (List.isEmpty_iff.1 hempty).symm
    · cases hlisted
  · exact (Option.some.inj hlisted).symm

/-- Around moments that are shown, bounds hold by instants. -/
theorem Span.covers_iff {span : Span} {meeting : Meeting} (hmeeting : meeting.start.Shown)
    (hstart : ∀ start ∈ span.start, start.Shown) (hfinish : ∀ finish ∈ span.finish, finish.Shown) :
    span.covers meeting = true ↔
      (span.client.isNull ∨ meeting.client.same span.client) ∧
        (∀ start ∈ span.start, start.instant ≤ meeting.start.instant) ∧
        ∀ finish ∈ span.finish, meeting.start.instant < finish.instant := by
  have hfrom : span.start.all (fun start => !meeting.start.before start) = true ↔
      ∀ start ∈ span.start, start.instant ≤ meeting.start.instant := by
    cases hspan : span.start with
    | none => simp
    | some start =>
      have hbefore := Moment.before_iff hmeeting (hstart start hspan)
      simpa [← Bool.not_eq_true] using not_congr hbefore
  have hupTo : span.finish.all (fun finish => meeting.start.before finish) = true ↔
      ∀ finish ∈ span.finish, meeting.start.instant < finish.instant := by
    cases hspan : span.finish with
    | none => simp
    | some finish => simpa using Moment.before_iff hmeeting (hfinish finish hspan)
  simp only [covers, Bool.and_eq_true, Bool.or_eq_true, hfrom, hupTo, and_assoc]

/-- What a book lists of some records: within bounds that are moments the meetings
that they ask for, and no others within any bounds; each as often as the records
hold it; by instants around moments that are shown; and in the order of time if no
start is told wrong of another. -/
structure Lists (book : Book) (records : Records) : Prop where
  answers : ∀ advisor client start finish,
    book.meetingsWithin? advisor client (start.map .moment) (finish.map .moment) =
      some (book.meetingsOf advisor ⟨start, finish, client⟩)
  within : ∀ advisor client start finish listed,
    book.meetingsWithin? advisor client start finish = some listed → listed =
      book.meetingsOf advisor ⟨start.bind Bound.moment?, finish.bind Bound.moment?, client⟩
  each : ∀ advisor span, (book.meetingsOf advisor span).Perm (records.asked advisor span)
  bounds : ∀ (span : Span) (meeting : Meeting), meeting.start.Shown →
    (∀ start ∈ span.start, start.Shown) → (∀ finish ∈ span.finish, finish.Shown) →
      (span.covers meeting = true ↔
        (span.client.isNull ∨ meeting.client.same span.client) ∧
          (∀ start ∈ span.start, start.instant ≤ meeting.start.instant) ∧
          ∀ finish ∈ span.finish, meeting.start.instant < finish.instant)
  inTimeOrder : records.NoneMistold → ∀ advisor span,
    InTimeOrder (book.meetingsOf advisor span) (records.asked advisor span)

/-- The book of the records of a seed lists them. -/
theorem lists_of_records (hrecords : Book.records zone seed = .ok records) :
    records.book.Lists records where
  answers := records.book.meetingsWithin?_moments
  within _ _ _ _ _ hlisted := meetingsWithin?_eq_some hlisted
  each := meetingsOf_perm records
  bounds _ _ hmeeting hstart hfinish := Span.covers_iff hmeeting hstart hfinish
  inTimeOrder := meetingsOf_inTimeOrder hrecords

end Book

/-- **Meetings are listed in the order of time, unless their starts are told
wrong.**  Over every seed that loads, an advisor is listed each meeting that is
asked for once, and in the order of time if no start is told wrong of another.
Starts are told wrong only on the clock of the seed's own region, where it skips the
reading that is put first; and two such meetings that are given in the order of time
are turned around. -/
theorem listing_in_time_order {zone : Zone} {seed : Value} {book : Book}
    (hseed : Book.ofSeed zone seed = .ok book) :
    ∃ records, Book.records zone seed = .ok records ∧ book.Lists records ∧
      ∀ a ∈ records.meetings, ∀ b ∈ records.meetings, a.start.Mistold b.start →
        (∃ region, zone = .region region ∧ a.start.zone = zone ∧ b.start.zone = zone ∧
          region.Skips a.start.clock.ticks) ∧
        (Records.mk records.clients [b, a]).book.meetings = [a, b] ∧
        ¬ InTimeOrder [a, b] [b, a] := by
  cases hrecords : Book.records zone seed with
  | error cause =>
    rw [Book.ofSeed_eq, hrecords] at hseed
    cases hseed
  | ok records =>
    rw [Book.ofSeed_eq, hrecords] at hseed
    cases hseed
    refine ⟨records, rfl, Book.lists_of_records hrecords, fun a ha b hb hmistold =>
      ⟨?_, Sorting.sort_pair hmistold.1, not_inTimeOrder_pair hmistold⟩⟩
    obtain ⟨hagain, hzone⟩ := Book.start_of_records hrecords a ha
    obtain ⟨region, hregionA, hregionB, hskips⟩ :=
      hmistold.skips hagain (Book.start_of_records hrecords b hb).1
    rcases hzone with hzone | ⟨offset, hzone⟩
    · exact ⟨region, hzone ▸ hregionA, hzone, hregionB.trans (hregionA.symm.trans hzone), hskips⟩
    · rw [hzone] at hregionA
      cases hregionA

/-- In the repeated hour of autumn in Rome, a lunch on the clock comes before two
calls at constant offsets although its reading is the latest; the calls start
together and stay in file order. -/
theorem listing_in_time_order_of_repeated_hour :
    let lunch : Value := .object [("id", .int 1), ("advisor_id", .int 1),
      ("subject", .text "lunch"), ("date_time", .text "2026-10-25T02:30:00")]
    let call : Value := .object [("id", .int 2), ("advisor_id", .int 1),
      ("subject", .text "call"), ("date_time", .text "2026-10-25T02:10:00+01:00")]
    let other : Value := .object [("id", .int 3), ("advisor_id", .int 1),
      ("subject", .text "other call"), ("date_time", .text "2026-10-25T01:10:00Z")]
    let seed : Value := .object [("meetings", .list [other, call, lunch])]
    ∃ book, Book.ofSeed (.region .rome) seed = .ok book ∧
      (book.meetingsOf (.int 1) .all).map (·.id) = [.int 1, .int 3, .int 2] := by
  intro lunch call other seed
  let held (id : Int) (subject : String) (start : Moment) : Meeting :=
    ⟨.int id, .int 1, .text subject, start, .int 60, .null, .text "", .text ""⟩
  let first := held 1 "lunch" ⟨⟨63928492200000000, by decide, by decide⟩, .region .rome, false⟩
  let second := held 2 "call"
    ⟨⟨63928491000000000, by decide, by decide⟩, .constant 3600000000, false⟩
  let third := held 3 "other call" ⟨⟨63928487400000000, by decide, by decide⟩, .constant 0, false⟩
  let records : Records := ⟨[], [third, second, first]⟩
  have hrecords : Book.records (.region .rome) seed = .ok records := rfl
  have hseed : Book.ofSeed (.region .rome) seed = .ok records.book := by
    rw [Book.ofSeed_eq, hrecords]
    rfl
  obtain ⟨own, hown, hlists, -⟩ := listing_in_time_order hseed
  rw [hrecords] at hown
  cases hown
  have hnone : records.NoneMistold := by decide +kernel
  have horder := hlists.inTimeOrder hnone (.int 1) .all
  have hasked : records.asked (.int 1) .all = [third, second, first] := rfl
  have htogether : third.start.instant = second.start.instant := by decide
  have hearlier : first.start.instant < second.start.instant := by decide +kernel
  have hexpected : InTimeOrder [first, third, second] [third, second, first] := by
    refine ⟨@List.perm_append_comm _ [first] [third, second], by decide +kernel, fun k => ?_⟩
    simp only [Sorting.level_cons, Sorting.level_nil, htogether]
    by_cases hk : first.start.instant = k
    · have hlater : second.start.instant ≠ k := by omega
      simp only [hk, hlater, if_true, if_false]
    · simp only [hk, if_false]
  rw [hasked] at horder
  refine ⟨records.book, hseed, ?_⟩
  rw [horder.unique hexpected]
  rfl

end FlowDesk
