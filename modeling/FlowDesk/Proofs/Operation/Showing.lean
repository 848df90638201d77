/-
# Shown times denote instants

A start is shown in a region as a text with an offset, and as a date and a time for the
eye.  The text is read back to the instant of the start, whichever clock the start is
given by, also where the clock of the region shows a reading twice or not at all
(`Calendar.Moment.readLocal?_shown`); and the date and the time are those with which the text
begins (`Calendar.Moment.beginsWith_text`).

So it is for each meeting that is listed, and for both sides of a dialog about a new
meeting or a changed one (`shown_times_denote`).
-/

import FlowDesk.Proofs.Operation.Editing

namespace FlowDesk

open Calendar

/-! ## The text of a start -/

namespace Calendar

/-- A text begins with a date, and with the hours and minutes of a day. -/
structure BeginsWith (text : String) (date : Date) (hours minutes : Nat) : Prop where
  valid : date.isValid
  hours_lt : hours < 24
  minutes_lt : minutes < 60
  written : ∃ rest, text.toList =
    Iso.dateText date ++ 'T' :: (Iso.padded 2 hours ++ ':' :: (Iso.padded 2 minutes ++ rest))

namespace Moment

variable {moment shown : Moment} {region : Region}

/-- The text of a moment begins with the date and the time of its clock, which are also
written for the eye. -/
theorem beginsWith_text (moment : Moment) :
    ∃ date hours minutes, BeginsWith (Iso.text moment) date hours minutes ∧
      moment.dateText = String.ofList (Iso.padded 2 date.day ++ '/' :: Iso.padded 2 date.month ++
        '/' :: Nat.toDigits 10 date.year) ∧
      moment.timeText = String.ofList (Iso.padded 2 hours ++ ':' :: Iso.padded 2 minutes) := by
  have hday : moment.clock.timeOfDay < fullDay := Int.emod_lt_of_pos _ (by decide)
  have htime : 0 ≤ moment.clock.timeOfDay := Int.emod_nonneg _ (by decide)
  obtain ⟨hhours, hminutes, -⟩ := Iso.WrittenTime.bounds_of htime hday
  refine ⟨moment.clock.date, _, _, ⟨moment.clock.date_isValid, hhours, hminutes, ?_⟩, ?_, rfl⟩
  · refine ⟨':' :: (Iso.secondsText moment.clock.timeOfDay ++ Iso.offsetText moment.offset), ?_⟩
    rw [Iso.toList_text]
    simp [Iso.timeText, Iso.hoursAndMinutes, Iso.WrittenTime.of]
  · have hyear : Iso.padded 1 moment.clock.date.year = Nat.toDigits 10 moment.clock.date.year := by
      have hsome : 0 < (Nat.toDigits 10 moment.clock.date.year).length :=
        List.length_pos_of_ne_nil Nat.toDigits_ne_nil
      rw [Iso.padded, Nat.sub_eq_zero_of_le hsome, List.replicate_zero, List.nil_append]
    rw [dateText, hyear]

/-- **What is shown is read back to the same instant**, whether the moment is shown as it
stands or on the clock of another zone. -/
theorem readLocal?_shown (hshown : moment.inRegion? region = some shown) :
    ∃ read, readLocal? region (Iso.text shown) = some read ∧ read.instant = moment.instant := by
  have hlocal := localIn_eq_ok_iff.2 hshown
  have hmem : shown.offset ∈ region.offsets := by
    rw [offset, zone_of_localIn hlocal]
    exact region.offset_mem _ _
  refine ⟨_, readLocal?_text (Region.isOffset_of_mem _ hmem) (Region.whole_of_mem _ hmem) region,
    ?_⟩
  change shown.instant = moment.instant
  by_cases hzone : moment.zone = .region region
  · rw [inRegion?, if_pos hzone] at hshown
    rw [Option.some.inj hshown]
  · have hinstant : 0 ≤ moment.instant := by
      rw [inRegion?_of_other hzone] at hshown
      obtain ⟨universal, huniversal, -⟩ := Option.bind_eq_some_iff.1 hshown
      rw [← Clock.ticks_of_ofTicks? huniversal]
      exact universal.notEarlier
    exact (offset_of_shown hshown (fun hown => absurd hown hzone) hinstant).2.1

end Moment

end Calendar

/-! ## Fields that show an instant -/

/-- Some fields show an instant in a region: the text of the start is read back to that
instant, and the date and the time for the eye are those with which the text begins. -/
def ShowsInstant (region : Region) (fields : Fields) (instant : Int) : Prop :=
  ∃ text date hours minutes,
    fields.at? "date_time" = some (.text text) ∧
    (∃ read, Moment.readLocal? region text = some read ∧ read.instant = instant) ∧
    BeginsWith text date hours minutes ∧
    fields.at? "formatted_date" = some (.text (String.ofList
      (Iso.padded 2 date.day ++ '/' :: Iso.padded 2 date.month ++
        '/' :: Nat.toDigits 10 date.year))) ∧
    fields.at? "formatted_time" =
      some (.text (String.ofList (Iso.padded 2 hours ++ ':' :: Iso.padded 2 minutes)))

namespace ShowsInstant

variable {region : Region} {start shown : Moment} {fields other : Fields} {instant : Int}

/-- Fields with the text, the date and the time of a start show its instant. -/
theorem of_localIn (hshown : start.localIn region = .ok shown)
    (htext : fields.at? "date_time" = some (.text (Iso.text shown)))
    (hdate : fields.at? "formatted_date" = some (.text shown.dateText))
    (hclock : fields.at? "formatted_time" = some (.text shown.timeText)) :
    ShowsInstant region fields start.instant := by
  obtain ⟨date, hours, minutes, hbegins, hdateText, htimeText⟩ := shown.beginsWith_text
  exact ⟨Iso.text shown, date, hours, minutes, htext,
    Moment.readLocal?_shown (Moment.localIn_eq_ok_iff.1 hshown), hbegins, hdateText ▸ hdate,
    htimeText ▸ hclock⟩

/-- Fields with the same time show the same instant. -/
theorem congr (hfields : ShowsInstant region fields instant)
    (htime : ∀ name ∈ ["date_time", "formatted_date", "formatted_time"],
      other.at? name = fields.at? name) : ShowsInstant region other instant := by
  simp only [List.forall_mem_cons, List.not_mem_nil, false_implies, implies_true, and_true] at htime
  obtain ⟨text, date, hours, minutes, htext, hread, hbegins, hdate, hclock⟩ := hfields
  exact ⟨text, date, hours, minutes, htime.1.trans htext, hread, hbegins, htime.2.1.trans hdate,
    htime.2.2.trans hclock⟩

end ShowsInstant

/-- A meeting that is shown shows the instant of its start. -/
theorem Meeting.showsInstant {book : Book} {region : Region} {caller : Value} {meeting : Meeting}
    {fields : Fields} (hshown : meeting.shown book region caller = .ok fields) :
    ShowsInstant region fields meeting.start.instant := by
  obtain ⟨start, hstart, rfl⟩ := Meeting.shown_eq_ok.1 hshown
  exact .of_localIn hstart rfl rfl rfl

/-! ## Dialogs -/

/-- The dialog for a new meeting shows the instant of the time that is given. -/
theorem Draft.showsInstant_of_run {book : Book} {region : Region} {args : Args} {caller : Value}
    {fields : Fields} (hrun : run book region args caller = .ok (.success fields)) :
    ∃ start data, Moment.readLocal? region args.dateTime = some start ∧
      fields.at? "meeting_data" = some (.object data) ∧ ShowsInstant region data start.instant := by
  unfold run at hrun
  dsimp only at hrun
  split at hrun
  · cases hrun
  split at hrun
  · exact absurd hrun (Edit.badDuration_ne_success _ _)
  split at hrun
  · cases hrun
  next start hstart =>
  cases hfound : Draft.client book caller args with
  | error fault =>
    rw [hfound] at hrun
    cases hrun
  | ok found =>
    simp only [hfound, bind, Except.bind] at hrun
    cases found with
    | none => cases hrun
    | some client =>
      cases hshown : start.localIn region with
      | error fault =>
        simp only [hshown] at hrun
        cases hrun
      | ok shown =>
        simp only [hshown] at hrun
        cases hrun
        exact ⟨start, _, hstart, rfl, .of_localIn hshown rfl rfl rfl⟩

/-- The dialog for a changed meeting shows the start that the meeting has, and the one that
it would have. -/
theorem Edit.showsInstant_of_run {book : Book} {region : Region} {args : Args} {caller : Value}
    {fields : Fields} (hrun : run book region args caller = .ok (.success fields)) :
    ∃ meeting original data, book.meeting? caller (.int args.meetingId) = some meeting ∧
      fields.at? "original" = some (.object original) ∧
      fields.at? "meeting_data" = some (.object data) ∧
      ShowsInstant region original meeting.start.instant ∧
      match args.dateTime.filter (· ≠ "") with
      | none => ShowsInstant region data meeting.start.instant
      | some text => ∃ start, Moment.readLocal? region text = some start ∧
          ShowsInstant region data start.instant := by
  obtain ⟨meeting, current, start?, hmeeting, hshown, hstart, -, rfl⟩ := run_eq_success.1 hrun
  have horiginal := Meeting.showsInstant hshown
  obtain ⟨start, -, rfl⟩ := Meeting.shown_eq_ok.1 hshown
  have hmerges : Merges region args (meeting.fieldsAt book caller start)
      ((meeting.fieldsAt book caller start).putAll (puts start? args)) := merges_puts hstart
  refine ⟨meeting, _, _, hmeeting, rfl, rfl, horiginal, ?_⟩
  obtain ⟨start?, hnew, htime⟩ := hmerges.time
  cases hgiven : args.dateTime.filter (· ≠ "") with
  | none =>
    rw [NewStart, hgiven] at hnew
    subst hnew
    exact horiginal.congr htime
  | some text =>
    rw [NewStart, hgiven] at hnew
    obtain ⟨given, shown, hread, hshown, rfl⟩ := hnew
    exact ⟨given, hread, .of_localIn hshown (htime _ (by decide)) (htime _ (by decide))
      (htime _ (by decide))⟩

/-! ## Whatever is shown -/

namespace Surroundings

variable {σ : Type}

/-- What a desk shows a caller of a time denotes its instant. -/
structure ShowsInstants (around : Surroundings σ) (caller : Value) : Prop where
  /-- A meeting is shown when its start has a reading in the region. -/
  shown : ∀ meeting : Meeting,
    (∃ fields, meeting.shown around.book around.region caller = .ok fields ∧
      ShowsInstant around.region fields meeting.start.instant) ↔
    ∃ start, meeting.start.inRegion? around.region = some start
  /-- Meetings that are listed show the instants of their starts. -/
  listed : ∀ operation ∈ ["get_meetings_by_date_range", "get_meetings_by_client_name"],
    ∀ args state fields,
      (around.operations.handler ⟨operation, args, caller⟩ state).1 = .now (.success fields) →
      ∃ span items, fields.at? "meetings" = some (.list (items.map .object)) ∧
        List.Forall₂ (fun meeting item => ShowsInstant around.region item meeting.start.instant)
          (around.book.meetingsOf caller span) items
  /-- A new meeting shows the instant of the time that is given. -/
  drafted : ∀ args state fields,
    (around.operations.handler ⟨"prepare_meeting_data", args, caller⟩ state).1 =
      .now (.success fields) →
    ∃ own start data, Draft.read args = .valid own ∧
      Moment.readLocal? around.region own.dateTime = some start ∧
      fields.at? "meeting_data" = some (.object data) ∧
      ShowsInstant around.region data start.instant
  /-- A changed meeting shows the instant of its start, and that of the time that is given,
  if there is one. -/
  edited : ∀ args state fields,
    (around.operations.handler ⟨"prepare_edit_meeting", args, caller⟩ state).1 =
      .now (.success fields) →
    ∃ own meeting original data, Edit.read args = .valid own ∧
      around.book.meeting? caller (.int own.meetingId) = some meeting ∧
      fields.at? "original" = some (.object original) ∧
      fields.at? "meeting_data" = some (.object data) ∧
      ShowsInstant around.region original meeting.start.instant ∧
      match own.dateTime.filter (· ≠ "") with
      | none => ShowsInstant around.region data meeting.start.instant
      | some text => ∃ start, Moment.readLocal? around.region text = some start ∧
          ShowsInstant around.region data start.instant

end Surroundings

/-- **Shown times denote instants.**  In every region, the text with which a start is shown
is read back to the instant of the start, and the date and the time beside it are those with
which the text begins: for each meeting that is listed, for a meeting whose changes are
prepared, as it is and as it would be, and for a new meeting. -/
theorem shown_times_denote {σ : Type} (around : Surroundings σ) (caller : Value) :
    around.ShowsInstants caller := by
  refine ⟨fun meeting => ⟨?_, ?_⟩, fun operation hoperation args state fields hanswer => ?_,
    fun args state fields hanswer => ?_, fun args state fields hanswer => ?_⟩
  · rintro ⟨fields, hshown, -⟩
    obtain ⟨start, hstart, -⟩ := Meeting.shown_eq_ok.1 hshown
    exact ⟨start, Moment.localIn_eq_ok_iff.1 hstart⟩
  · rintro ⟨start, hstart⟩
    have hshown : meeting.shown around.book around.region caller =
        .ok (meeting.fieldsAt around.book caller start) :=
      Meeting.shown_eq_ok.2 ⟨start, Moment.localIn_eq_ok_iff.2 hstart, rfl⟩
    exact ⟨_, hshown, Meeting.showsInstant hshown⟩
  · obtain ⟨span, items, hitems, hmeetings⟩ :=
      around.listsAsShown caller operation hoperation args state fields hanswer
    exact ⟨span, items, hmeetings,
      (mapM_eq_ok_iff.1 hitems).imp fun _ _ hshown => Meeting.showsInstant hshown⟩
  · obtain ⟨own, hown, hrun⟩ := around.operations.read_of_success
      (.prepareMeetingData around.book around.region) rfl rfl hanswer
    obtain ⟨start, data, hstart, hdata, hshows⟩ := Draft.showsInstant_of_run hrun
    exact ⟨own, start, data, hown, hstart, hdata, hshows⟩
  · obtain ⟨own, hown, hrun⟩ := around.operations.read_of_success
      (.prepareEditMeeting around.book around.region) rfl rfl hanswer
    obtain ⟨meeting, original, data, hedits⟩ := Edit.showsInstant_of_run hrun
    exact ⟨own, meeting, original, data, hown, hedits⟩

/-- In Rome a meeting at a reading that the clock skips, moved to the second showing of one
that it repeats: the dialog shows the instants of both. -/
theorem shown_times_denote_around_changes :
    let start : Moment := ⟨⟨63910348200000000, by decide, by decide⟩, .region .rome, false⟩
    let review : Meeting := ⟨.int 1, .int 1, .text "Review", start, .int 60, .null, .text "",
      .text ""⟩
    let clock : Moment := ⟨⟨63871372800000000, by decide, by decide⟩, .region .rome, false⟩
    let fetch : News.Fetcher Unit := fun _ state => (.unreachable, state)
    let around : Surroundings Unit := ⟨⟨[], [review]⟩, .rome, clock, "", fetch⟩
    let args : Value := .object [("meeting_id", .int 1),
      ("date_time", .text "2026-10-25T01:30:00+00:00")]
    Region.rome.Skips start.clock.ticks ∧
    ∃ fields original data : Fields,
      (around.operations.handler ⟨"prepare_edit_meeting", args, .int 1⟩ ()).1 =
        .now (.success fields) ∧
      fields.at? "original" = some (.object original) ∧
      fields.at? "meeting_data" = some (.object data) ∧
      ShowsInstant .rome original 63910344600000000 ∧
      data.at? "date_time" = some (.text "2026-10-25T02:30:00+01:00") ∧
      ShowsInstant .rome data 63928488600000000 := by
  intro start review clock fetch around args
  let own : Edit.Args := ⟨1, none, some "2026-10-25T01:30:00+00:00", none, none, none⟩
  let given : Moment := ⟨⟨63928488600000000, by decide, by decide⟩, .constant 0, false⟩
  let shown : Moment := ⟨⟨63928492200000000, by decide, by decide⟩, .region .rome, true⟩
  have hread : Moment.readLocal? .rome "2026-10-25T01:30:00+00:00" = some given := by
    decide +kernel
  have hshown : given.localIn .rome = .ok shown := Moment.localIn_eq_ok_iff.2 (by decide +kernel)
  have hnew : Edit.NewStart .rome own (some shown) := ⟨given, shown, hread, hshown, rfl⟩
  have hvisible : around.book.meeting? (.int 1) (.int 1) = some review := rfl
  have hargs : Edit.read args = .valid own := rfl
  have hrun := Edit.run_eq_success.2
    ⟨review, review.fieldsAt around.book (.int 1) start, some shown, hvisible, rfl, hnew,
      by decide, rfl⟩
  have hcall := around.operations.handler_of_read
    (.prepareEditMeeting around.book around.region) rfl rfl hargs (.int 1) ()
  rw [hrun] at hcall
  have hanswer := congrArg Prod.fst hcall
  obtain ⟨own', meeting, original, data, hown, hmeeting, horiginal, hdata, hshows, hmoves⟩ :=
    (shown_times_denote around (.int 1)).edited args () _ hanswer
  cases hargs.symm.trans hown
  cases hvisible.symm.trans hmeeting
  obtain ⟨again, hagain, hmoved⟩ := hmoves
  cases hread.symm.trans hagain
  have hinstant : review.start.instant = 63910344600000000 := by decide +kernel
  have hlater : given.instant = 63928488600000000 := by decide +kernel
  rw [hinstant] at hshows
  rw [hlater] at hmoved
  refine ⟨by decide +kernel, _, original, data, hanswer, horiginal, hdata, hshows, ?_, hmoved⟩
  cases hdata
  have htext : Iso.text shown = "2026-10-25T02:30:00+01:00" := by decide +kernel
  exact congrArg (fun text => some (Value.text text)) htext

end FlowDesk
