/-
# The dialog for a changed meeting

The dialog holds the meeting as it is shown and as it would be, and says which fields
differ (`Surroundings.Edits`).  Who asks for what is shown already asks for no change
(`edits_merge`): the time that is shown is read back to the same time
(`Moment.localIn_text`).  Only a start that the clock skips, shown as it stands in the
record, is not that of any instant, and comes back as another one
(`edit_of_skipped_start`).
-/

import FlowDesk.Proofs.Calendar.Return
import FlowDesk.Proofs.Operation.Changes
import FlowDesk.Proofs.Operation.Naming

namespace FlowDesk

open Calendar

/-! ## Lists of meetings -/

/-- What is listed for a range is the meetings of some span, each as it is shown. -/
theorem Range.meetings_of_run {book : Book} {region : Region} {clock : Moment}
    {expression : String} {caller : Value} {fields : Fields}
    (hrun : run book region clock expression caller = .ok (.success fields)) :
    ∃ span items, (book.meetingsOf caller span).mapM (Meeting.shown book region caller) =
        .ok items ∧
      fields.at? "meetings" = some (.list (items.map .object)) := by
  unfold run at hrun
  cases hnow : clock.localIn region with
  | error fault =>
    rw [hnow] at hrun
    cases hrun
  | ok now =>
    simp only [hnow, bind, Except.bind] at hrun
    split at hrun
    · cases hrun
    · cases hrun
    · rename_i range _
      cases hitems : (book.meetingsOf caller ⟨range.start, range.finish, .null⟩).mapM
          (Meeting.shown book region caller) with
      | error fault =>
        rw [hitems] at hrun
        cases hrun
      | ok items =>
        rw [hitems] at hrun
        cases hrun
        exact ⟨_, items, hitems, rfl⟩

/-- What is listed for a client is the meetings of some span, each as it is shown. -/
theorem WithClient.meetings_of_run {book : Book} {region : Region} {name : String}
    {caller : Value} {fields : Fields}
    (hrun : run book region name caller = .ok (.success fields)) :
    ∃ span items, (book.meetingsOf caller span).mapM (Meeting.shown book region caller) =
        .ok items ∧
      fields.at? "meetings" = some (.list (items.map .object)) := by
  unfold run at hrun
  cases hfound : book.findClient caller name true with
  | error fault =>
    rw [hfound] at hrun
    cases hrun
  | ok found =>
    simp only [hfound, bind, Except.bind] at hrun
    cases found with
    | none => cases hrun
    | some client =>
      cases hitems : (book.meetingsOf caller ⟨none, none, client.id⟩).mapM
          (Meeting.shown book region caller) with
      | error fault =>
        simp only [hitems] at hrun
        cases hrun
      | ok items =>
        simp only [hitems] at hrun
        cases hrun
        exact ⟨_, items, hitems, rfl⟩

namespace Surroundings

variable {σ : Type}

/-- Whatever lists meetings of a caller lists those of some span, each as it is shown. -/
def ListsAsShown (around : Surroundings σ) (caller : Value) : Prop :=
  ∀ operation ∈ ["get_meetings_by_date_range", "get_meetings_by_client_name"],
    ∀ args state fields,
      (around.operations.handler ⟨operation, args, caller⟩ state).1 = .now (.success fields) →
      ∃ span items,
        (around.book.meetingsOf caller span).mapM
          (Meeting.shown around.book around.region caller) = .ok items ∧
        fields.at? "meetings" = some (.list (items.map .object))

/-- Meetings are listed as they are shown. -/
theorem listsAsShown (around : Surroundings σ) (caller : Value) : around.ListsAsShown caller := by
  intro operation hoperation args state fields hanswer
  simp only [List.mem_cons, List.not_mem_nil, or_false] at hoperation
  rcases hoperation with rfl | rfl
  · obtain ⟨expression, -, hrun⟩ := around.operations.read_of_success
      (.getMeetingsByDateRange around.book around.region around.clock) rfl rfl hanswer
    exact Range.meetings_of_run hrun
  · obtain ⟨name, -, hrun⟩ := around.operations.read_of_success
      (.getMeetingsByClientName around.book around.region) rfl rfl hanswer
    exact WithClient.meetings_of_run hrun

/-- A dialog for changes that a caller asks for: the meeting as it is shown and as it would
be, and the names of the fields that differ. -/
structure Edits (around : Surroundings σ) (caller : Value) (args : Edit.Args) (meeting : Meeting)
    (original data : Fields) (changed : List String) : Prop where
  visible : around.book.meeting? caller (.int args.meetingId) = some meeting
  shown : meeting.shown around.book around.region caller = .ok original
  merges : Edit.Merges around.region args original data
  sorted : changed.Pairwise (· < ·)
  differ : ∀ name, name ∈ changed ↔ data.at? name ≠ original.at? name

/-- A dialog for changes is one. -/
theorem edits_of_run (around : Surroundings σ)
    (htyped : ∀ meeting ∈ around.book.meetings, meeting.IsTyped) {caller : Value}
    {args : Edit.Args} {fields : Fields}
    (hrun : Edit.run around.book around.region args caller = .ok (.success fields)) :
    ∃ meeting original data changed, around.Edits caller args meeting original data changed ∧
      fields.at? "original" = some (.object original) ∧
      fields.at? "meeting_data" = some (.object data) ∧
      fields.at? "changed_fields" = some (.ofTexts changed) := by
  obtain ⟨meeting, current, start?, hmeeting, hshown, hstart, -, rfl⟩ := Edit.run_eq_success.1 hrun
  obtain ⟨start, -, rfl⟩ := Meeting.shown_eq_ok.1 hshown
  have hown := htyped meeting (List.mem_of_find?_eq_some hmeeting)
  exact ⟨meeting, _, _, _, ⟨hmeeting, hshown, Edit.merges_puts hstart,
    Edit.changed_sorted (Meeting.nodup_fieldsAt start) _, Edit.mem_changed_puts hown start start?⟩,
    rfl, rfl, rfl⟩

/-- Who gives the shown fields of a meeting asks for what is shown. -/
theorem read_own {meeting : Meeting} (htyped : meeting.IsTyped) {book : Book} {caller : Value}
    {start : Moment} {given : Fields} {id : Int} (hid : given.at? "meeting_id" = some (.int id))
    (hsame : ∀ name ∈ ["subject", "date_time", "duration", "location", "notes"],
      given.at? name = (meeting.fieldsAt book caller start).at? name) :
    ∃ args, Edit.read (.object given) = .valid args ∧ args.meetingId = id ∧
      args.dateTime = some (Iso.text start) ∧
      args.subject.map .text = some meeting.subject ∧
      args.duration.map .int = some meeting.duration ∧
      args.location.map .text = some meeting.location ∧
      args.notes.map .text = some meeting.notes := by
  obtain ⟨subject, hsubject⟩ := htyped.subject
  obtain ⟨minutes, hminutes⟩ := htyped.duration
  obtain ⟨location, hlocation⟩ := htyped.location
  obtain ⟨notes, hnotes⟩ := htyped.notes
  obtain ⟨hgiven_subject, hgiven_time, hgiven_duration, hgiven_location, hgiven_notes⟩ :=
    Meeting.gives_own_iff.1 hsame
  rw [hsubject] at hgiven_subject
  rw [hminutes] at hgiven_duration
  rw [hlocation] at hgiven_location
  rw [hnotes] at hgiven_notes
  refine ⟨⟨id, some subject, some (Iso.text start), some minutes, some location, some notes⟩, ?_,
    rfl, rfl, by rw [hsubject]; rfl, by rw [hminutes]; rfl, by rw [hlocation]; rfl,
    by rw [hnotes]; rfl⟩
  simp only [Edit.read, Checked.required, Checked.optional, hid, hgiven_subject, hgiven_time,
    hgiven_duration, hgiven_location, hgiven_notes]
  rfl

/-- Who gives the shown fields of a visible meeting asks for no change, if its time comes
back as it is shown. -/
theorem edit_own (around : Surroundings σ) {caller : Value} {meeting : Meeting} {id : Int}
    (hmeeting : around.book.meeting? caller (.int id) = some meeting) (htyped : meeting.IsTyped)
    (hpositive : ∀ minutes, meeting.duration = .int minutes → 0 < minutes)
    {start read back : Moment} (hstart : meeting.start.localIn around.region = .ok start)
    (hread : Moment.readLocal? around.region (Iso.text start) = some read)
    (hback : read.localIn around.region = .ok back)
    (htime : Meeting.timeFields back = Meeting.timeFields start) {given : Fields}
    (hid : given.at? "meeting_id" = some (.int id))
    (hsame : ∀ name ∈ ["subject", "date_time", "duration", "location", "notes"],
      given.at? name = (meeting.fieldsAt around.book caller start).at? name) :
    ∃ fields : Fields,
      fields.at? "meeting_data" = some (.object (meeting.fieldsAt around.book caller start)) ∧
      fields.at? "original" = some (.object (meeting.fieldsAt around.book caller start)) ∧
      fields.at? "changed_fields" = some (.list []) ∧
      ∀ state, around.operations.handler ⟨"prepare_edit_meeting", .object given, caller⟩ state =
        (.now (.success fields), state) := by
  obtain ⟨args, hargs, rfl, hdateTime, hsubject, hduration, hlocation, hnotes⟩ :=
    read_own htyped hid hsame
  have hnewStart : Edit.NewStart around.region args (some back) := by
    have hsome : args.dateTime.filter (· ≠ "") = some (Iso.text start) := by
      rw [hdateTime]
      simp [Moment.text_ne_empty]
    rw [Edit.NewStart, hsome]
    exact ⟨read, back, hread, hback, rfl⟩
  have hminutes : ∀ minutes ∈ args.duration, 0 < minutes := by
    intro minutes hmem
    rw [Option.mem_def.1 hmem] at hduration
    exact hpositive minutes (Option.some.inj hduration).symm
  have hshown : meeting.shown around.book around.region caller =
      .ok (meeting.fieldsAt around.book caller start) :=
    Meeting.shown_eq_ok.2 ⟨start, hstart, rfl⟩
  have hrun := Edit.run_eq_success.2 ⟨meeting, _, some back, hmeeting, hshown, hnewStart, hminutes,
    rfl⟩
  have hkept : (meeting.fieldsAt around.book caller start).putAll (Edit.puts (some back) args) =
      meeting.fieldsAt around.book caller start :=
    Edit.putAll_own htime hsubject hduration hlocation hnotes
  have hnone : Edit.changed (meeting.fieldsAt around.book caller start)
      (Edit.puts (some back) args) = [] := by
    refine List.eq_nil_iff_forall_not_mem.2 fun name hname => ?_
    rw [Edit.mem_changed_puts htyped, hkept] at hname
    exact hname rfl
  refine ⟨Edit.dialog meeting (meeting.fieldsAt around.book caller start)
    (Edit.puts (some back) args), ?_, rfl, ?_, fun state => ?_⟩
  · exact congrArg (fun data => some (Value.object data)) hkept
  · exact congrArg (fun names => some (Value.ofTexts names)) hnone
  · have hcall := around.operations.handler_of_read
      (.prepareEditMeeting around.book around.region) rfl rfl hargs caller state
    rw [hrun] at hcall
    exact hcall

/-- The start of a typed meeting of a seed is shown, and what is shown of it is read back
to the same, unless the clock skips it. -/
theorem start_returns (around : Surroundings σ) {seed : Value}
    (hseed : Book.ofSeed (.region around.region) seed = .ok around.book) {meeting : Meeting}
    (hmem : meeting ∈ around.book.meetings) (hinner : meeting.start.clock.IsInner)
    (hskips : meeting.start.zone = .region around.region →
      ¬ around.region.Skips meeting.start.clock.ticks) :
    ∃ start read back, meeting.start.localIn around.region = .ok start ∧
      Moment.readLocal? around.region (Iso.text start) = some read ∧
      read.localIn around.region = .ok back ∧
      Meeting.timeFields back = Meeting.timeFields start := by
  have hzone := Book.isOrdinary_of_ofSeed hseed meeting hmem
  obtain ⟨s, hs⟩ := Book.read?_of_ofSeed hseed meeting hmem
  obtain ⟨hfirst, -⟩ := Book.zone_of_read? hs
  obtain ⟨hlow, hhigh⟩ := hinner.bounds
  obtain ⟨hleast, hgreatest⟩ := Moment.offset_bounds hzone
  have hinstant : 0 ≤ meeting.start.instant ∧ meeting.start.instant < clockLimit := by
    unfold Moment.instant
    omega
  obtain ⟨start, hstart, -⟩ := Moment.localIn_of_inner hzone hinner around.region
  obtain ⟨read, back, hread, hback, hclock, hoffset⟩ :=
    Moment.localIn_text hstart (fun hown => ⟨hfirst, hskips hown⟩) hinstant
  exact ⟨start, read, back, hstart, hread, hback, Meeting.timeFields_congr hclock hoffset⟩

end Surroundings

/-- **Changes are merged into what is shown.**  A meeting whose changes are prepared is
shown as the listings show it; its fields are the changes that were asked for, and else
what they were; and the fields named as changed are those that differ.  Who asks for what
is shown of a visible meeting asks for no change, unless the meeting starts at a reading
that the clock skips. -/
theorem edits_merge {σ : Type} (around : Surroundings σ) {seed : Value}
    (hseed : Book.ofSeed (.region around.region) seed = .ok around.book)
    (htyped : ∀ meeting ∈ around.book.meetings, meeting.IsTyped) (caller : Value) :
    around.ListsAsShown caller ∧
    (∀ args state fields,
      (around.operations.handler ⟨"prepare_edit_meeting", args, caller⟩ state).1 =
        .now (.success fields) →
      ∃ own meeting original data changed, Edit.read args = .valid own ∧
        around.Edits caller own meeting original data changed ∧
        fields.at? "original" = some (.object original) ∧
        fields.at? "meeting_data" = some (.object data) ∧
        fields.at? "changed_fields" = some (.ofTexts changed)) ∧
    ∀ id meeting, around.book.meeting? caller (.int id) = some meeting →
      (∀ minutes, meeting.duration = .int minutes → 0 < minutes) →
      meeting.start.clock.IsInner →
      (meeting.start.zone = .region around.region →
        ¬ around.region.Skips meeting.start.clock.ticks) →
      ∃ original, meeting.shown around.book around.region caller = .ok original ∧
        ∀ given : Fields, given.at? "meeting_id" = some (.int id) →
          (∀ name ∈ ["subject", "date_time", "duration", "location", "notes"],
            given.at? name = original.at? name) →
          ∃ fields : Fields,
            fields.at? "meeting_data" = some (.object original) ∧
            fields.at? "original" = some (.object original) ∧
            fields.at? "changed_fields" = some (.list []) ∧
            ∀ state, around.operations.handler
              ⟨"prepare_edit_meeting", .object given, caller⟩ state =
                (.now (.success fields), state) := by
  refine ⟨around.listsAsShown caller, fun args state fields hanswer => ?_,
    fun id meeting hmeeting hpositive hinner hskips => ?_⟩
  · obtain ⟨own, hown, hrun⟩ := around.operations.read_of_success
      (.prepareEditMeeting around.book around.region) rfl rfl hanswer
    obtain ⟨meeting, original, data, changed, hedits⟩ := around.edits_of_run htyped hrun
    exact ⟨own, meeting, original, data, changed, hown, hedits⟩
  · have hmem : meeting ∈ around.book.meetings := List.mem_of_find?_eq_some hmeeting
    obtain ⟨start, read, back, hstart, hread, hback, htime⟩ :=
      around.start_returns hseed hmem hinner hskips
    refine ⟨meeting.fieldsAt around.book caller start, Meeting.shown_eq_ok.2 ⟨start, hstart, rfl⟩,
      fun given hid hsame => ?_⟩
    exact around.edit_own hmeeting (htyped meeting hmem) hpositive hstart hread hback htime hid
      hsame

/-- Who asks again for a meeting in the hour that comes twice, at its second showing, asks
for no change. -/
theorem edits_merge_in_repeated_hour :
    let seed : Value := .object [("meetings", .list [.object [("id", .int 1),
      ("advisor_id", .int 1), ("subject", .text "Review"),
      ("date_time", .text "2026-10-25T02:30:00+01:00")]])]
    let start : Moment := ⟨⟨63928492200000000, by decide, by decide⟩, .constant hour, false⟩
    let review : Meeting := ⟨.int 1, .int 1, .text "Review", start, .int 60, .null, .text "",
      .text ""⟩
    let clock : Moment := ⟨⟨63871372800000000, by decide, by decide⟩, .region .rome, false⟩
    let fetch : News.Fetcher Unit := fun _ state => (.unreachable, state)
    let around : Surroundings Unit := ⟨⟨[], [review]⟩, .rome, clock, "", fetch⟩
    let given : Fields := [("meeting_id", .int 1), ("subject", .text "Review"),
      ("date_time", .text "2026-10-25T02:30:00+01:00"), ("duration", .int 60),
      ("location", .text ""), ("notes", .text "")]
    Book.ofSeed (.region .rome) seed = .ok around.book ∧
    ∃ fields : Fields, fields.at? "changed_fields" = some (.list []) ∧
      around.operations.handler ⟨"prepare_edit_meeting", .object given, .int 1⟩ () =
        (.now (.success fields), ()) := by
  intro seed start review clock fetch around given
  have hseed : Book.ofSeed (.region .rome) seed = .ok around.book := Book.ofSeed_of_one rfl
  have htyped : ∀ meeting ∈ around.book.meetings, meeting.IsTyped := by
    intro meeting hmem
    rw [List.mem_singleton.1 hmem]
    exact ⟨⟨1, rfl⟩, ⟨_, rfl⟩, ⟨60, rfl⟩, ⟨_, rfl⟩, ⟨_, rfl⟩⟩
  have hpositive : ∀ minutes, review.duration = .int minutes → 0 < minutes := by
    intro minutes hminutes
    cases hminutes
    decide
  have hvisible : around.book.meeting? (.int 1) (.int 1) = some review := rfl
  obtain ⟨original, hshown, hagain⟩ := (edits_merge around hseed htyped (.int 1)).2.2 1 review
    hvisible hpositive (by decide) nofun
  obtain ⟨shown, hstart, rfl⟩ := Meeting.shown_eq_ok.1 hshown
  have htime : Iso.text shown = "2026-10-25T02:30:00+01:00" := by
    have hmoment : (start.inRegion? .rome).map Iso.text = some "2026-10-25T02:30:00+01:00" := by
      decide +kernel
    rw [Moment.localIn_eq_ok_iff.1 hstart] at hmoment
    exact Option.some.inj hmoment
  have hsame : ∀ name ∈ ["subject", "date_time", "duration", "location", "notes"],
      given.at? name = (review.fieldsAt around.book (.int 1) shown).at? name :=
    Meeting.gives_own_iff.2 ⟨rfl, by rw [htime]; rfl, rfl, rfl, rfl⟩
  obtain ⟨fields, -, -, hchanged, hanswer⟩ := hagain given rfl hsame
  exact ⟨hseed, fields, hchanged, hanswer ()⟩

/-- A start that the clock of Rome skipped when standard time was adopted there comes back
as another one: who asks for what is shown asks for a change. -/
theorem edit_of_skipped_start :
    let seed : Value := .object [("meetings", .list [.object [("id", .int 1),
      ("advisor_id", .int 1), ("subject", .text "Founding"),
      ("date_time", .text "1893-10-31T23:55:00")]])]
    let start : Moment := ⟨⟨59732034900000000, by decide, by decide⟩, .region .rome, false⟩
    let founding : Meeting := ⟨.int 1, .int 1, .text "Founding", start, .int 60, .null, .text "",
      .text ""⟩
    let clock : Moment := ⟨⟨63871372800000000, by decide, by decide⟩, .region .rome, false⟩
    let fetch : News.Fetcher Unit := fun _ state => (.unreachable, state)
    let around : Surroundings Unit := ⟨⟨[], [founding]⟩, .rome, clock, "", fetch⟩
    let given : Fields := [("meeting_id", .int 1), ("subject", .text "Founding"),
      ("date_time", .text "1893-10-31T23:55:00+00:49:56"), ("duration", .int 60),
      ("location", .text ""), ("notes", .text "")]
    Book.ofSeed (.region .rome) seed = .ok around.book ∧ founding.IsTyped ∧
    start.clock.IsInner ∧ ¬ Region.rome.SkipsInSpring start.clock.ticks ∧
    ∃ original changed fields, founding.shown around.book .rome (.int 1) = .ok original ∧
      (∀ name ∈ ["subject", "date_time", "duration", "location", "notes"],
        given.at? name = original.at? name) ∧
      (around.operations.handler ⟨"prepare_edit_meeting", .object given, .int 1⟩ ()).1 =
        .now (.success fields) ∧
      fields.at? "changed_fields" = some (.ofTexts changed) ∧ "date_time" ∈ changed := by
  intro seed start founding clock fetch around given
  have hseed : Book.ofSeed (.region .rome) seed = .ok around.book := Book.ofSeed_of_one rfl
  have htyped : founding.IsTyped := ⟨⟨1, rfl⟩, ⟨_, rfl⟩, ⟨60, rfl⟩, ⟨_, rfl⟩, ⟨_, rfl⟩⟩
  have htext : Iso.text start = "1893-10-31T23:55:00+00:49:56" := by decide +kernel
  let read : Moment :=
    ⟨⟨59732034900000000, by decide, by decide⟩, .constant 2996000000, false⟩
  let back : Moment := ⟨⟨59732035504000000, by decide, by decide⟩, .region .rome, false⟩
  have hread : Moment.readLocal? .rome "1893-10-31T23:55:00+00:49:56" = some read := by
    decide +kernel
  have hback : read.localIn .rome = .ok back := Moment.localIn_eq_ok_iff.2 (by decide +kernel)
  let args : Edit.Args := ⟨1, some "Founding", some "1893-10-31T23:55:00+00:49:56", some 60,
    some "", some ""⟩
  have hnew : Edit.NewStart .rome args (some back) := ⟨read, back, hread, hback, rfl⟩
  have hvisible : around.book.meeting? (.int 1) (.int 1) = some founding := rfl
  have hshown : founding.shown around.book .rome (.int 1) =
      .ok (founding.fieldsAt around.book (.int 1) start) := rfl
  have hargs : Edit.read (.object given) = .valid args := rfl
  have hrun := Edit.run_eq_success.2
    ⟨founding, _, some back, hvisible, hshown, hnew, by decide, rfl⟩
  have hcall := around.operations.handler_of_read
    (.prepareEditMeeting around.book around.region) rfl rfl hargs (.int 1) ()
  rw [hrun] at hcall
  have hsame : ∀ name ∈ ["subject", "date_time", "duration", "location", "notes"],
      given.at? name = (founding.fieldsAt around.book (.int 1) start).at? name :=
    Meeting.gives_own_iff.2 ⟨rfl, by rw [htext]; rfl, rfl, rfl, rfl⟩
  refine ⟨hseed, htyped, by decide, by decide +kernel, _, _, _, hshown, hsame,
    congrArg Prod.fst hcall, rfl, ?_⟩
  rw [Edit.mem_changed_puts htyped, Table.at?_putAll (Edit.nodup_puts _ _)]
  have hother : Iso.text back ≠ Iso.text start := by decide +kernel
  exact fun heq => hother (Value.text.inj (Option.some.inj heq))

end FlowDesk
