/-
# One advisor's part of a book

A book answers every question for one advisor.  Two books whose records of that
advisor are the same, in the same order, give the same answers
(`Book.AgreeFor`).  For clients this is a matter of filters; meetings are put in
order among those of all other advisors first, and what is then picked from
them is the same because the sort is stable (`ofRecords_agree`).
-/

import FlowDesk.Book.Seed
import FlowDesk.Proofs.Book.StableSort
import FlowDesk.Proofs.Calendar.Gap
import Mathlib.Data.List.Forall2

namespace FlowDesk

open Calendar

section

variable {α β ε : Type} {read : α → Except ε β} {items : List α} {values : List β}

/-- A list is read when each of its items is. -/
theorem mapM_eq_ok_iff :
    items.mapM read = .ok values ↔
      List.Forall₂ (fun item value => read item = .ok value) items values := by
  induction items generalizing values with
  | nil =>
    rw [List.mapM_nil, List.forall₂_nil_left_iff]
    exact ⟨fun hread => (Except.ok.inj hread).symm, fun hread => congrArg Except.ok hread.symm⟩
  | cons item rest ih =>
    rw [List.mapM_cons, List.forall₂_cons_left_iff]
    constructor
    · intro hread
      cases hitem : read item with
      | error cause =>
        rw [hitem] at hread
        cases hread
      | ok value =>
        cases hrest : rest.mapM read with
        | error cause =>
          rw [hitem, hrest] at hread
          cases hread
        | ok others =>
          rw [hitem, hrest] at hread
          cases hread
          exact ⟨value, others, rfl, ih.1 hrest, rfl⟩
    · rintro ⟨value, others, hitem, hothers, rfl⟩
      rw [hitem, ih.2 hothers]
      rfl

/-- What is true of an item that can be read is true of all items of a list that is
read. -/
theorem forall_of_mapM {P : α → Prop} (hread : items.mapM read = .ok values)
    (hitem : ∀ item value, read item = .ok value → P item) : ∀ item ∈ items, P item :=
  ((List.forall₂_and_left _ _).1 ((mapM_eq_ok_iff.1 hread).imp fun item value hvalue =>
    ⟨hitem item value hvalue, hvalue⟩)).1

/-- Everything read from a list comes from an item. -/
theorem exists_of_mem_mapM (hread : items.mapM read = .ok values) {value : β}
    (hmem : value ∈ values) : ∃ item, read item = .ok value := by
  have hflip : List.Forall₂ (fun value item => read item = .ok value) values items :=
    (mapM_eq_ok_iff.1 hread).flip
  have hfrom : List.Forall₂ (fun value item => (∃ item, read item = .ok value) ∧
      read item = .ok value) values items :=
    hflip.imp fun value item hitem => ⟨⟨item, hitem⟩, hitem⟩
  exact ((List.forall₂_and_left _ _).1 hfrom).1 value hmem

end

/-- The clients and meetings of a seed, in file order. -/
structure Records where
  clients : List Client
  meetings : List Meeting

namespace Records

/-- The records of one advisor. -/
def ofAdvisor (records : Records) (advisor : Value) : Records :=
  ⟨records.clients.filter (·.advisor.same advisor),
    records.meetings.filter (·.advisor.same advisor)⟩

/-- The book of some records. -/
def book (records : Records) : Book := .ofRecords records.clients records.meetings

/-- No meeting that is given by the region's clock is at a reading that the
clock skips. -/
def NoneSkipped (region : Region) (records : Records) : Prop :=
  ∀ meeting ∈ records.meetings, meeting.start.zone = .region region →
    ¬ region.Skips meeting.start.clock.ticks

end Records

namespace Book

/-! ## The records of a seed -/

/-- Read the records of a seed. -/
def records (zone : Zone) (seed : Value) : Except SeedError Records := do
  let clients ← (← section? seed "clients").mapM client
  let meetings ← (← section? seed "meetings").mapM (meeting zone)
  return ⟨clients, meetings⟩

/-- The book of a seed is that of its records. -/
theorem ofSeed_eq (zone : Zone) (seed : Value) :
    ofSeed zone seed = (records zone seed).map Records.book := by
  unfold ofSeed records
  cases section? seed "clients" with
  | error cause => rfl
  | ok clients =>
    simp only [Except.bind, bind]
    cases clients.mapM client with
    | error cause => rfl
    | ok clients =>
      dsimp only
      cases section? seed "meetings" with
      | error cause => rfl
      | ok meetings =>
        dsimp only
        cases meetings.mapM (meeting zone) <;> rfl

/-- A written moment is a first showing, on the zone's clock or at a constant
offset. -/
theorem zone_of_read? {zone : Zone} {s : String} {moment : Moment}
    (hread : Moment.read? zone s = some moment) :
    moment.again = false ∧ (moment.zone = zone ∨ ∃ offset, moment.zone = .constant offset) := by
  obtain ⟨⟨clock, offset⟩, -, rfl⟩ := Option.map_eq_some_iff.1 hread
  cases offset with
  | none => exact ⟨rfl, .inl rfl⟩
  | some offset => exact ⟨rfl, .inr ⟨offset, rfl⟩⟩

/-- The start of a meeting record was read from a text. -/
theorem read?_of_meeting {zone : Zone} {v : Value} {own : Meeting}
    (hmeeting : meeting zone v = .ok own) : ∃ s, Moment.read? zone s = some own.start := by
  unfold meeting at hmeeting
  cases hfields : meetingFields v with
  | error cause =>
    rw [hfields] at hmeeting
    cases hmeeting
  | ok fields =>
    rw [hfields] at hmeeting
    simp only [bind, Except.bind] at hmeeting
    split at hmeeting
    · cases hmeeting
    · rename_i s _
      cases hread : Moment.read? zone s with
      | none =>
        rw [hread] at hmeeting
        cases hmeeting
      | some start =>
        rw [hread] at hmeeting
        dsimp only at hmeeting
        split at hmeeting <;> cases hmeeting
        exact ⟨s, hread⟩
    · cases hmeeting

/-- The meetings of a seed are read from some of its data. -/
theorem meetings_of_records {zone : Zone} {seed : Value} {own : Records}
    (hrecords : records zone seed = .ok own) :
    ∀ held ∈ own.meetings, ∃ v, meeting zone v = .ok held := by
  unfold records at hrecords
  simp only [bind, Except.bind] at hrecords
  split at hrecords
  · cases hrecords
  split at hrecords
  · cases hrecords
  split at hrecords
  · cases hrecords
  split at hrecords
  · cases hrecords
  rename_i meetings hmeetings
  cases hrecords
  intro own hmem
  exact exists_of_mem_mapM hmeetings hmem

/-- The meetings of a seed without skipped readings are at readings that are
shown. -/
theorem shown_of_records {region : Region} {seed : Value} {own : Records}
    (hrecords : records (.region region) seed = .ok own) (hskipped : own.NoneSkipped region) :
    ∀ meeting ∈ own.meetings, meeting.start.Shown := by
  intro meeting hmem
  obtain ⟨v, hmeeting⟩ := meetings_of_records hrecords meeting hmem
  obtain ⟨s, hread⟩ := read?_of_meeting hmeeting
  obtain ⟨hagain, hzone⟩ := zone_of_read? hread
  refine ⟨hagain, fun other hother => ?_⟩
  rcases hzone with hzone | ⟨offset, hzone⟩
  · rw [hzone] at hother
    cases hother
    exact hskipped meeting hmem hzone
  · rw [hzone] at hother
    cases hother

/-! ## Books that agree -/

/-- Two books hold the same records of an advisor, in the same order. -/
structure AgreeFor (advisor : Value) (first second : Book) : Prop where
  clients : first.clients.filter (·.advisor.same advisor) =
    second.clients.filter (·.advisor.same advisor)
  meetings : first.meetings.filter (·.advisor.same advisor) =
    second.meetings.filter (·.advisor.same advisor)

/-- The order of meetings is that of the instants at which they start. -/
theorem ranks_startsBefore :
    Sorting.Ranks startsBefore (fun meeting => meeting.start.instant) fun meeting =>
      meeting.start.Shown :=
  fun _ _ ha hb => Moment.before_iff ha hb

/-- Books of the same records of an advisor agree, whatever they hold of
others. -/
theorem ofRecords_agree {advisor : Value} {first second : Records}
    (hsame : first.ofAdvisor advisor = second.ofAdvisor advisor)
    (hfirst : ∀ meeting ∈ first.meetings, meeting.start.Shown)
    (hsecond : ∀ meeting ∈ second.meetings, meeting.start.Shown) :
    AgreeFor advisor first.book second.book where
  clients := congrArg Records.clients hsame
  meetings := Sorting.filter_sort_eq ranks_startsBefore hfirst hsecond
    (congrArg Records.meetings hsame)

namespace AgreeFor

variable {advisor : Value} {first second : Book}

/-- Books that agree list the same clients. -/
theorem clientsOf_eq (hagree : AgreeFor advisor first second) (withArchived : Bool) :
    first.clientsOf advisor withArchived = second.clientsOf advisor withArchived := by
  have hfilter : ∀ book : Book, book.clientsOf advisor withArchived =
      (book.clients.filter (·.advisor.same advisor)).filter fun client =>
        withArchived || !client.isArchived.truthy := by
    intro book
    rw [List.filter_filter]
    exact List.filter_congr fun client _ => Bool.and_comm _ _
  rw [hfilter, hfilter, hagree.clients]

/-- Books that agree find the same client by id. -/
theorem client?_eq (hagree : AgreeFor advisor first second) (id : Value) :
    first.client? advisor id = second.client? advisor id := by
  have hfind : ∀ book : Book, book.client? advisor id =
      (book.clients.filter (·.advisor.same advisor)).find? (·.id.same id) := by
    intro book
    rw [List.find?_filter]
    unfold client?
    congr 1
    funext client
    rw [Bool.decide_and, Bool.decide_eq_true, Bool.decide_eq_true, Bool.and_comm]
  rw [hfind, hfind, hagree.clients]

/-- Books that agree find the same meeting by id. -/
theorem meeting?_eq (hagree : AgreeFor advisor first second) (id : Value) :
    first.meeting? advisor id = second.meeting? advisor id := by
  have hfind : ∀ book : Book, book.meeting? advisor id =
      (book.meetings.filter (·.advisor.same advisor)).find? (·.id.same id) := by
    intro book
    rw [List.find?_filter]
    unfold meeting?
    congr 1
    funext meeting
    rw [Bool.decide_and, Bool.decide_eq_true, Bool.decide_eq_true, Bool.and_comm]
  rw [hfind, hfind, hagree.meetings]

/-- Books that agree list the same meetings. -/
theorem meetingsOf_eq (hagree : AgreeFor advisor first second) (span : Span) :
    first.meetingsOf advisor span = second.meetingsOf advisor span := by
  have hfilter : ∀ book : Book, book.meetingsOf advisor span =
      (book.meetings.filter (·.advisor.same advisor)).filter span.covers := by
    intro book
    rw [List.filter_filter]
    exact List.filter_congr fun meeting _ => Bool.and_comm _ _
  rw [hfilter, hfilter, hagree.meetings]

/-- Books that agree find the same client by name. -/
theorem findClient_eq (hagree : AgreeFor advisor first second) (name : String)
    (withArchived : Bool) :
    first.findClient advisor name withArchived = second.findClient advisor name withArchived := by
  unfold findClient
  rw [hagree.clientsOf_eq]

end AgreeFor

end Book

end FlowDesk
