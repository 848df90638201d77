/-
# Changes put into a meeting

A meeting is shown with the fields that describe it and those of its start.  What would be
after a change is what is, with the changes put in: each field is taken from the changes or
kept from the meeting as it is shown (`Edit.Merges`).  Texts are replaced by texts and
numbers by numbers, so that the fields named as changed are those that differ
(`Edit.mem_changed_puts`); and what is shown, put in again, changes nothing
(`Edit.putAll_own`).
-/

import FlowDesk.Proofs.Book.Sound
import FlowDesk.Proofs.Table

namespace FlowDesk

open Calendar

/-! ## Meetings as they are shown -/

namespace Meeting

/-- A meeting holds what its fields are meant for: a whole number for an id, texts, and a
whole number of minutes. -/
structure IsTyped (meeting : Meeting) : Prop where
  id : ∃ id, meeting.id = .int id
  subject : meeting.subject.IsText
  duration : ∃ minutes, meeting.duration = .int minutes
  location : meeting.location.IsText
  notes : meeting.notes.IsText

/-- The fields with which a meeting is shown that starts at a moment of the local clock. -/
def fieldsAt (book : Book) (caller : Value) (meeting : Meeting) (start : Moment) : Fields :=
  [("id", meeting.id), ("subject", meeting.subject)] ++ timeFields start ++
    [ ("duration", meeting.duration),
      ("location", meeting.location),
      ("notes", meeting.notes),
      ("client", clientInfo book caller meeting) ]

variable {book : Book} {region : Region} {caller : Value} {meeting : Meeting}

/-- A meeting is shown when its start is. -/
theorem shown_eq_ok {current : Fields} : meeting.shown book region caller = .ok current ↔
    ∃ start, meeting.start.localIn region = .ok start ∧
      meeting.fieldsAt book caller start = current := by
  unfold shown
  cases meeting.start.localIn region <;> simp [bind, Except.bind, pure, Except.pure, fieldsAt]

/-- The names of these fields. -/
theorem names_fieldsAt (start : Moment) : (meeting.fieldsAt book caller start).names =
    ["id", "subject", "date_time", "formatted_date", "formatted_time", "duration", "location",
      "notes", "client"] := rfl

/-- They are different. -/
theorem nodup_fieldsAt (start : Moment) : (meeting.fieldsAt book caller start).names.Nodup := by
  rw [names_fieldsAt]
  decide

/-- Who gives five fields of a meeting as they are shown gives what the meeting holds, and
its start as it is written. -/
theorem gives_own_iff {given : Fields} {start : Moment} :
    (∀ name ∈ ["subject", "date_time", "duration", "location", "notes"],
      given.at? name = (meeting.fieldsAt book caller start).at? name) ↔
    given.at? "subject" = some meeting.subject ∧
      given.at? "date_time" = some (.text (Iso.text start)) ∧
      given.at? "duration" = some meeting.duration ∧
      given.at? "location" = some meeting.location ∧
      given.at? "notes" = some meeting.notes := by
  simp only [List.forall_mem_cons, List.not_mem_nil, false_implies, implies_true, and_true]
  rfl

/-- The client of a meeting is shown as an object, or not at all. -/
theorem clientInfo_cases : clientInfo book caller meeting = .null ∨
    ∃ fields, clientInfo book caller meeting = .object fields := by
  unfold clientInfo
  split
  · exact .inl rfl
  · split
    · exact .inr ⟨_, rfl⟩
    · exact .inl rfl

/-- The same reading with the same offset is shown in the same way. -/
theorem timeFields_congr {one other : Moment} (hclock : one.clock = other.clock)
    (hoffset : one.offset = other.offset) : timeFields one = timeFields other := by
  simp only [timeFields, Iso.text, Moment.dateText, Moment.timeText, hclock, hoffset]

end Meeting

/-! ## What is put in -/

namespace Edit

/-- The start that changes ask for, as it is shown: none unless there is a date and time
that is not empty. -/
def NewStart (region : Region) (args : Args) (start? : Option Moment) : Prop :=
  match args.dateTime.filter (· ≠ "") with
  | none => start? = none
  | some text => ∃ start shown, Moment.readLocal? region text = some start ∧
    start.localIn region = .ok shown ∧ start? = some shown

/-- The fields of the time, if there is a start to put in. -/
def startFields (start? : Option Moment) : Fields := (start?.map Meeting.timeFields).getD []

/-- The field of the duration, if there is one to put in. -/
def durationFields (args : Args) : Fields :=
  (args.duration.map fun minutes => ("duration", Value.int minutes)).toList

/-- What changes put in, with the start that they ask for. -/
def puts (start? : Option Moment) (args : Args) : Fields :=
  startFields start? ++ durationFields args ++ newTexts args

/-- The dialog for a changed meeting. -/
def dialog (meeting : Meeting) (current set : Fields) : Fields :=
  let names := changed current set
  let subject := "\x22" ++ meeting.subject.shown ++ "\x22"
  [ ("meeting_id", meeting.id),
    ("meeting_data", .object (current.putAll set)),
    ("original", .object current),
    ("changed_fields", .ofTexts names),
    ("show_dialog", .bool true),
    ("dialog_type", .text "edit_meeting"),
    ("message", .text
      (if names.isEmpty then s!"No changes requested for {subject}."
        else s!"Preparing changes to {subject}: " ++ ", ".intercalate names ++ ".")) ]

variable {book : Book} {region : Region} {caller : Value} {args : Args}

/-- The fields of the time are those of the start that is asked for. -/
theorem newTime_eq_ok {time : Fields} : newTime region args = .ok (.ok time) ↔
    ∃ start?, NewStart region args start? ∧ startFields start? = time := by
  unfold newTime NewStart startFields
  cases args.dateTime.filter (· ≠ "") with
  | none => simp
  | some text =>
    dsimp only
    cases hread : Moment.readLocal? region text with
    | none => simp
    | some start => cases hshown : start.localIn region <;> simp [Except.map, hshown]

/-- A duration is put in as it is, if it is positive. -/
theorem newDuration_eq_ok {duration : Fields} : newDuration args = .ok duration ↔
    (∀ minutes ∈ args.duration, 0 < minutes) ∧ durationFields args = duration := by
  unfold newDuration durationFields
  cases args.duration with
  | none => simp
  | some minutes =>
    dsimp only
    split <;> rename_i hsign <;> simp <;> omega

/-- What is said to a meeting that would last no time is no success. -/
theorem badDuration_ne_success (minutes : Int) (fields : Fields) :
    Draft.badDuration minutes ≠ .ok (.success fields) := by
  unfold Draft.badDuration
  split <;> simp [Answer.failure, Answer.success]

/-- What is said when there is no meeting with an id is no success. -/
theorem notFound_ne_success (id : Int) (fields : Fields) :
    notFound id ≠ .ok (.success fields) := by
  unfold notFound
  split <;> simp [Answer.failure, Answer.success]

/-- A refusal is no success. -/
theorem Refusal.answer_ne_success (refusal : Refusal) (fields : Fields) :
    refusal.answer ≠ .ok (.success fields) := by
  cases refusal with
  | badDateTime text => simp [answer, Answer.failure, Answer.success]
  | badDuration minutes => exact badDuration_ne_success minutes fields

/-- Changes succeed for a visible meeting when it can be shown, with a start that can be
read and shown, and with a positive duration. -/
theorem run_eq_success {fields : Fields} : run book region args caller = .ok (.success fields) ↔
    ∃ meeting current start?, book.meeting? caller (.int args.meetingId) = some meeting ∧
      meeting.shown book region caller = .ok current ∧ NewStart region args start? ∧
      (∀ minutes ∈ args.duration, 0 < minutes) ∧
      dialog meeting current (puts start? args) = fields := by
  constructor
  · intro hrun
    unfold run at hrun
    cases hmeeting : book.meeting? caller (.int args.meetingId) with
    | none =>
      rw [hmeeting] at hrun
      exact absurd hrun (notFound_ne_success _ _)
    | some meeting =>
      cases hshown : meeting.shown book region caller with
      | error fault =>
        simp only [hmeeting, hshown, bind, Except.bind] at hrun
        cases hrun
      | ok current =>
        simp only [hmeeting, hshown, bind, Except.bind] at hrun
        cases htime : newTime region args with
        | error fault =>
          rw [htime] at hrun
          cases hrun
        | ok time =>
          rw [htime] at hrun
          dsimp only at hrun
          cases time with
          | error refusal => exact absurd hrun (refusal.answer_ne_success _)
          | ok time =>
            cases hduration : newDuration args with
            | error refusal =>
              rw [hduration] at hrun
              exact absurd hrun (refusal.answer_ne_success _)
            | ok duration =>
              rw [hduration] at hrun
              obtain ⟨start?, hstart, rfl⟩ := newTime_eq_ok.1 htime
              obtain ⟨hpositive, rfl⟩ := newDuration_eq_ok.1 hduration
              cases hrun
              exact ⟨meeting, current, start?, rfl, hshown, hstart, hpositive, rfl⟩
  · rintro ⟨meeting, current, start?, hmeeting, hshown, hstart, hpositive, rfl⟩
    have htime := newTime_eq_ok.2 ⟨start?, hstart, rfl⟩
    have hduration := newDuration_eq_ok.2 ⟨hpositive, rfl⟩
    simp only [run, hmeeting, hshown, htime, hduration, bind, Except.bind]
    rfl

/-! ## What comes of them -/

/-- The fields that changes can put in. -/
def settable : List String :=
  ["date_time", "formatted_date", "formatted_time", "duration", "subject", "location", "notes"]

/-- The fields of the time are put in together, or not at all. -/
theorem names_startFields (start? : Option Moment) :
    (startFields start?).names.Sublist ["date_time", "formatted_date", "formatted_time"] := by
  cases start? with
  | none => exact List.nil_sublist _
  | some start => exact List.Sublist.refl _

/-- The duration is put in when there is one. -/
theorem names_durationFields (args : Args) :
    (durationFields args).names.Sublist ["duration"] := by
  unfold durationFields
  cases args.duration with
  | none => exact List.nil_sublist _
  | some minutes => exact List.Sublist.refl _

/-- Of the texts those are put in that there are. -/
theorem names_newTexts (args : Args) :
    (newTexts args).names.Sublist ["subject", "location", "notes"] := by
  have hgiven : ∀ entries : List (String × Option String),
      (Table.names (entries.filterMap fun entry =>
        entry.2.map fun text => (entry.1, Value.text text))).Sublist (entries.map Prod.fst) := by
    intro entries
    induction entries with
    | nil => exact List.nil_sublist _
    | cons entry rest ih =>
      obtain ⟨name, text | text⟩ := entry
      · exact ih.cons name
      · exact ih.cons_cons name
  exact hgiven [("subject", args.subject), ("location", args.location), ("notes", args.notes)]

/-- What changes put in are some of the fields that they can put in, each once. -/
theorem names_puts (start? : Option Moment) (args : Args) :
    (puts start? args).names.Sublist settable := by
  simp only [puts, Table.names, List.map_append]
  exact ((names_startFields start?).append (names_durationFields args)).append
    (names_newTexts args)

/-- What changes put in has different names. -/
theorem nodup_puts (start? : Option Moment) (args : Args) : (puts start? args).names.Nodup :=
  (names_puts start? args).nodup (by decide)

/-- What changes put in has names of fields that a meeting is shown with. -/
theorem puts_subset {meeting : Meeting} {start : Moment} (start? : Option Moment) (args : Args) :
    (puts start? args).names ⊆ (meeting.fieldsAt book caller start).names := by
  have hsubset : settable ⊆ (meeting.fieldsAt book caller start).names := by
    rw [Meeting.names_fieldsAt]
    decide
  exact List.Subset.trans (names_puts start? args).subset hsubset

/-- The duration that is put in is the one that there is. -/
theorem at?_durationFields (args : Args) :
    (durationFields args).at? "duration" = args.duration.map .int := by
  unfold durationFields
  cases args.duration <;> rfl

/-- The texts that are put in are those that there are. -/
theorem at?_newTexts (args : Args) :
    (newTexts args).at? "subject" = args.subject.map .text ∧
      (newTexts args).at? "location" = args.location.map .text ∧
      (newTexts args).at? "notes" = args.notes.map .text := by
  unfold newTexts
  cases args.subject <;> cases args.location <;> cases args.notes <;> exact ⟨rfl, rfl, rfl⟩

/-- What is put in under a name is a field of the time, the duration or a text. -/
theorem at?_puts (start? : Option Moment) (args : Args) (name : String) :
    (puts start? args).at? name = ((startFields start?).at? name).or
      (((durationFields args).at? name).or ((newTexts args).at? name)) := by
  rw [puts, Table.at?_append, Table.at?_append, Option.or_assoc]

/-- How the fields of a changed meeting come from changes and from the meeting as it
was. -/
structure Merges (region : Region) (args : Args) (original data : Fields) : Prop where
  names : data.names = original.names
  id : data.at? "id" = original.at? "id"
  client : data.at? "client" = original.at? "client"
  subject : data.at? "subject" = (args.subject.map .text).or (original.at? "subject")
  location : data.at? "location" = (args.location.map .text).or (original.at? "location")
  notes : data.at? "notes" = (args.notes.map .text).or (original.at? "notes")
  duration : data.at? "duration" = (args.duration.map .int).or (original.at? "duration")
  /-- The fields of the time come together from a new start, or stay. -/
  time : ∃ start?, NewStart region args start? ∧
    ∀ name ∈ ["date_time", "formatted_date", "formatted_time"],
      data.at? name = ((startFields start?).at? name).or (original.at? name)

/-- What is put in is merged with what is shown. -/
theorem merges_puts {meeting : Meeting} {start : Moment} {start? : Option Moment}
    (hstart : NewStart region args start?) :
    Merges region args (meeting.fieldsAt book caller start)
      ((meeting.fieldsAt book caller start).putAll (puts start? args)) := by
  have htime : ∀ name ∉ ["date_time", "formatted_date", "formatted_time"],
      (startFields start?).at? name = none := fun name hname =>
    Table.at?_eq_none fun hmem => hname ((names_startFields start?).subset hmem)
  have hduration : ∀ name ∉ ["duration"], (durationFields args).at? name = none :=
    fun name hname => Table.at?_eq_none fun hmem =>
      hname ((names_durationFields args).subset hmem)
  have htexts : ∀ name ∉ ["subject", "location", "notes"], (newTexts args).at? name = none :=
    fun name hname => Table.at?_eq_none fun hmem => hname ((names_newTexts args).subset hmem)
  obtain ⟨hsubject, hlocation, hnotes⟩ := at?_newTexts args
  have hat (name : String) :=
    Table.at?_putAll (nodup_puts start? args) (meeting.fieldsAt book caller start) name
  have hkept : ∀ name ∉ settable,
      ((meeting.fieldsAt book caller start).putAll (puts start? args)).at? name =
        (meeting.fieldsAt book caller start).at? name := by
    intro name hname
    rw [hat, Table.at?_eq_none fun hmem => hname ((names_puts start? args).subset hmem),
      Option.none_or]
  simp only [at?_puts] at hat
  refine
    { names := Table.names_putAll (puts_subset start? args)
      id := hkept _ (by decide), client := hkept _ (by decide)
      subject := ?_, location := ?_, notes := ?_, duration := ?_
      time := ⟨start?, hstart, fun name hname => ?_⟩ }
  · rw [hat, htime _ (by decide), hduration _ (by decide), hsubject]
    simp only [Option.none_or]
  · rw [hat, htime _ (by decide), hduration _ (by decide), hlocation]
    simp only [Option.none_or]
  · rw [hat, htime _ (by decide), hduration _ (by decide), hnotes]
    simp only [Option.none_or]
  · rw [hat, htime _ (by decide), at?_durationFields, htexts _ (by decide), Option.none_or,
      Option.or_none]
  · have hother : name ∉ ["duration"] ∧ name ∉ ["subject", "location", "notes"] := by
      revert name
      decide
    rw [hat, hduration _ hother.1, htexts _ hother.2, Option.or_none, Option.or_none]

/-! ## What is changed -/

/-- Names come in alphabetical order, each once. -/
theorem changed_sorted {current : Fields} (hdistinct : current.names.Nodup) (set : Fields) :
    (changed current set).Pairwise (· < ·) := by
  have hnames : (changed current set).Nodup := by
    refine (List.mergeSort_perm _ _).nodup_iff.2 ?_
    exact (List.filter_sublist.map Prod.fst).nodup hdistinct
  have hsorted : (changed current set).Pairwise fun a b => decide (a ≤ b) = true := by
    refine List.pairwise_mergeSort (fun a b c hab hbc => ?_) (fun a b => ?_) _
    · rw [decide_eq_true_eq] at hab hbc ⊢
      exact String.le_trans hab hbc
    · rw [Bool.or_eq_true, decide_eq_true_eq, decide_eq_true_eq]
      exact String.le_total a b
  exact hsorted.imp₂ (fun _ _ hle hne => Std.lt_of_le_of_ne (of_decide_eq_true hle) hne) hnames

/-- A field is named as changed when it is not as it was, if what is put in can be
compared with what was there and what stays is no fractional number. -/
theorem mem_changed_iff {current set : Fields} (hdistinct : current.names.Nodup)
    (hset : set.names.Nodup) (hknown : set.names ⊆ current.names)
    (hkind : ∀ name after before, set.at? name = some after → current.at? name = some before →
      (after.same before = true ↔ after = before))
    (hstays : ∀ name x, set.at? name = none → current.at? name ≠ some (.real x)) (name : String) :
    name ∈ changed current set ↔ (current.putAll set).at? name ≠ current.at? name := by
  have hmem : name ∈ changed current set ↔
      ∃ before, current.at? name = some before ∧ differs current set name before = true := by
    rw [changed, List.mem_mergeSort, List.mem_map]
    constructor
    · rintro ⟨⟨_, before⟩, hentry, rfl⟩
      obtain ⟨hin, hdiffers⟩ := List.mem_filter.1 hentry
      exact ⟨before, Table.at?_of_mem hdistinct hin, hdiffers⟩
    · rintro ⟨before, hbefore, hdiffers⟩
      exact ⟨(name, before), List.mem_filter.2 ⟨Table.mem_of_at?_eq_some hbefore, hdiffers⟩, rfl⟩
  rw [hmem, Table.at?_putAll hset]
  cases hcurrent : current.at? name with
  | none =>
    have habsent : set.at? name = none := by
      refine Table.at?_eq_none fun hin => ?_
      obtain ⟨⟨_, before⟩, hentry, rfl⟩ := List.mem_map.1 (hknown hin)
      cases hcurrent.symm.trans (Table.at?_of_mem hdistinct hentry)
    simp [habsent]
  | some before =>
    simp only [Option.some.injEq, exists_eq_left', differs]
    cases hgiven : set.at? name with
    | none =>
      have hplain := hstays name
      simp only [hgiven, hcurrent, true_implies] at hplain
      simp only [hcurrent, Option.getD_some, Option.none_or, ne_eq, not_true_eq_false, iff_false]
      split
      · exact absurd rfl (hplain _)
      · exact Bool.false_ne_true
    | some after =>
      have hsame := hkind name after before hgiven hcurrent
      simp only [Option.some_or, ne_eq, Option.some.injEq, ← hsame, Bool.not_eq_true',
        Bool.not_eq_true]

/-- Texts are equal as data exactly when they are equal. -/
theorem same_iff_of_texts {after before : Value} (hafter : after.IsText) (hbefore : before.IsText) :
    after.same before = true ↔ after = before := by
  obtain ⟨s, rfl⟩ := hafter
  obtain ⟨t, rfl⟩ := hbefore
  simp [Value.same_text]

/-- What is put in for a meeting that holds what it should is of the kind of what was
there, so that the two can be compared. -/
theorem same_iff_of_puts {meeting : Meeting} (htyped : meeting.IsTyped) {start : Moment}
    {start? : Option Moment} {name : String} {after before : Value}
    (hafter : (puts start? args).at? name = some after)
    (hbefore : (meeting.fieldsAt book caller start).at? name = some before) :
    after.same before = true ↔ after = before := by
  rcases List.mem_append.1 (Table.mem_of_at?_eq_some hafter) with hput | htext
  · rcases List.mem_append.1 hput with htime | hduration
    · cases start? with
      | none => cases htime
      | some shown =>
        simp only [startFields, Option.map_some, Option.getD_some, Meeting.timeFields,
          List.mem_cons, List.not_mem_nil, or_false, Prod.mk.injEq] at htime
        obtain ⟨rfl, rfl⟩ | ⟨rfl, rfl⟩ | ⟨rfl, rfl⟩ := htime <;> cases hbefore <;>
          exact same_iff_of_texts ⟨_, rfl⟩ ⟨_, rfl⟩
    · obtain ⟨minutes, hminutes⟩ := htyped.duration
      obtain ⟨given, -, hentry⟩ := Option.map_eq_some_iff.1 (Option.mem_toList.1 hduration)
      cases hentry
      cases hbefore
      rw [hminutes]
      simp [Value.same_int]
  · obtain ⟨⟨key, text?⟩, hentry, hgiven⟩ := List.mem_filterMap.1 htext
    obtain ⟨text, -, heq⟩ := Option.map_eq_some_iff.1 hgiven
    cases heq
    simp only [List.mem_cons, List.not_mem_nil, or_false, Prod.mk.injEq] at hentry
    obtain ⟨rfl, -⟩ | ⟨rfl, -⟩ | ⟨rfl, -⟩ := hentry <;> cases hbefore
    · exact same_iff_of_texts ⟨text, rfl⟩ htyped.subject
    · exact same_iff_of_texts ⟨text, rfl⟩ htyped.location
    · exact same_iff_of_texts ⟨text, rfl⟩ htyped.notes

/-- A meeting that holds what it should is shown without fractional numbers. -/
theorem fieldsAt_ne_real {meeting : Meeting} (htyped : meeting.IsTyped) (start : Moment)
    (name : String) (x : Binary64) :
    (meeting.fieldsAt book caller start).at? name ≠ some (.real x) := by
  intro hreal
  have hentry := Table.mem_of_at?_eq_some hreal
  obtain ⟨id, hid⟩ := htyped.id
  obtain ⟨subject, hsubject⟩ := htyped.subject
  obtain ⟨minutes, hminutes⟩ := htyped.duration
  obtain ⟨location, hlocation⟩ := htyped.location
  obtain ⟨notes, hnotes⟩ := htyped.notes
  have hclient : Meeting.clientInfo book caller meeting = .null ∨
      ∃ fields, Meeting.clientInfo book caller meeting = .object fields :=
    Meeting.clientInfo_cases
  obtain hnull | ⟨fields, hfields⟩ := hclient
  · simp [Meeting.fieldsAt, Meeting.timeFields, hid, hsubject, hminutes, hlocation, hnotes, hnull]
      at hentry
  · simp [Meeting.fieldsAt, Meeting.timeFields, hid, hsubject, hminutes, hlocation, hnotes,
      hfields] at hentry

/-- The fields that are named as changed are those that differ. -/
theorem mem_changed_puts {meeting : Meeting} (htyped : meeting.IsTyped) (start : Moment)
    (start? : Option Moment) (name : String) :
    name ∈ changed (meeting.fieldsAt book caller start) (puts start? args) ↔
      ((meeting.fieldsAt book caller start).putAll (puts start? args)).at? name ≠
        (meeting.fieldsAt book caller start).at? name :=
  mem_changed_iff (Meeting.nodup_fieldsAt start) (nodup_puts start? args) (puts_subset start? args)
    (fun _ _ _ hafter hbefore => same_iff_of_puts htyped hafter hbefore)
    (fun name x _ => fieldsAt_ne_real htyped start name x) name

/-! ## Asking for what is there -/

/-- What is shown, put in again, changes nothing. -/
theorem putAll_own {meeting : Meeting} {start again : Moment} {args : Args}
    (htime : Meeting.timeFields again = Meeting.timeFields start)
    (hsubject : args.subject.map .text = some meeting.subject)
    (hduration : args.duration.map .int = some meeting.duration)
    (hlocation : args.location.map .text = some meeting.location)
    (hnotes : args.notes.map .text = some meeting.notes) :
    (meeting.fieldsAt book caller start).putAll (puts (some again) args) =
      meeting.fieldsAt book caller start := by
  obtain ⟨subject, hargs_subject, hsubject⟩ := Option.map_eq_some_iff.1 hsubject
  obtain ⟨minutes, hargs_duration, hminutes⟩ := Option.map_eq_some_iff.1 hduration
  obtain ⟨location, hargs_location, hlocation⟩ := Option.map_eq_some_iff.1 hlocation
  obtain ⟨notes, hargs_notes, hnotes⟩ := Option.map_eq_some_iff.1 hnotes
  have hputs : puts (some again) args = Meeting.timeFields start ++
      [ ("duration", meeting.duration), ("subject", meeting.subject),
        ("location", meeting.location), ("notes", meeting.notes) ] := by
    simp [puts, startFields, durationFields, newTexts, htime, hargs_subject, hargs_duration,
      hargs_location, hargs_notes, hsubject, hminutes, hlocation, hnotes]
  rw [hputs]
  rfl

end Edit

end FlowDesk
