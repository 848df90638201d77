/-
# Leaving the calendar

An operation answers bad input with a failure, and keeps accidents for what no
input can cause.  Of the standard operations, those that show dates meet two
accidents all the same: arithmetic on a date may leave the calendar, and a number
that a failure has to name may be too long to be written.  Over sound clients every
call, known or unknown and with whatever arguments, ends in an outcome or in one of
these accidents.  The second one is met by a meeting id that is not known and by a
duration that is not positive, of more digits than are written
(`Surroundings.RefusesLong`).  Away from the ends of the calendar it takes particular
texts to cause the first one (`Surroundings.Overruns`): a range up to the last day of
all, or a moment that the calendar holds where it was written and not where it is
shown.

The main result is `operations_settle`.  What asks for news is left out, since
its answers depend on another service.
-/

import FlowDesk.Proofs.Operation.Promises
import FlowDesk.Proofs.Operation.Ranges

namespace FlowDesk

open Calendar

/-! ## Outcomes -/

/-- An answer is an outcome: a mapping that says whether the operation succeeded,
and, when it did not, says in a text what went wrong. -/
def Answer.IsOutcome (answer : Answer) : Prop :=
  ∃ (result : Fields) (success : Bool), answer = .value (.object result) ∧
    result.at? "success" = some (.bool success) ∧
    (success = false → ∃ error, result.at? "error" = some (.text error))

theorem Answer.failure_isOutcome (error : String) (extra : Fields) :
    (failure error extra).IsOutcome :=
  ⟨_, false, rfl, rfl, fun _ => ⟨error, rfl⟩⟩

theorem Answer.success_isOutcome (fields : Fields) : (success fields).IsOutcome :=
  ⟨_, true, rfl, rfl, fun h => by cases h⟩

theorem Answer.IsOutcome.ne_fault {answer : Answer} (houtcome : answer.IsOutcome)
    (accident : Fault) : answer ≠ .fault accident := by
  obtain ⟨result, success, rfl, -, -⟩ := houtcome
  exact fun h => by cases h

/-- An accident of leaving the calendar. -/
def Fault.IsOverrun (accident : Fault) : Prop := accident = .dateOutOfRange

/-- An accident of leaving the calendar, or of a number that is too long. -/
def Fault.IsExcess (accident : Fault) : Prop :=
  accident = .dateOutOfRange ∨ accident = .unwritten .longNumber

/-- What cannot be written does not leave the calendar. -/
theorem Fault.not_isOverrun_unwritten {obstacle : Obstacle} : ¬ IsOverrun (.unwritten obstacle) :=
  fun h => by cases h

/-- A computation comes to something good, unless it meets an accident of some kind. -/
inductive Settles {α : Type} (met : Fault → Prop) (good : α → Prop) : Except Fault α → Prop
  | ok {v : α} (hgood : good v) : Settles met good (.ok v)
  | accident {accident : Fault} (hmet : met accident) : Settles met good (.error accident)

namespace Settles

variable {α β : Type} {met wider : Fault → Prop} {good : α → Prop} {better : β → Prop}

/-- What goes on from something good settles as well. -/
theorem bind {result : Except Fault α} (hresult : Settles met good result)
    {next : α → Except Fault β} (hnext : ∀ v, good v → Settles met better (next v)) :
    Settles met better (result >>= next) := by
  cases hresult with
  | ok hgood => exact hnext _ hgood
  | accident hmet => exact .accident hmet

/-- What is made of something good settles as well. -/
theorem map {result : Except Fault α} (hresult : Settles met good result) {make : α → β}
    (hmake : ∀ v, good v → better (make v)) : Settles met better (result.map make) := by
  cases hresult with
  | ok hgood => exact .ok (hmake _ hgood)
  | accident hmet => exact .accident hmet

/-- More kinds of accidents may be met. -/
theorem mono {result : Except Fault α} (hresult : Settles met good result)
    (hwider : ∀ accident, met accident → wider accident) : Settles wider good result := by
  cases hresult with
  | ok hgood => exact .ok hgood
  | accident hmet => exact .accident (hwider _ hmet)

/-- No other accident is met. -/
theorem ne_error {result : Except Fault α} (hresult : Settles met good result) {accident : Fault}
    (hother : ¬ met accident) : result ≠ .error accident := by
  rintro rfl
  cases hresult with
  | accident hmet => exact hother hmet

/-- A list of computations settles when each does. -/
theorem mapM {check : β → Except Fault α} {items : List β}
    (hcheck : ∀ item ∈ items, Settles met (fun _ => True) (check item)) :
    Settles met (fun _ => True) (items.mapM check) := by
  induction items with
  | nil => exact .ok trivial
  | cons item rest ih =>
    obtain ⟨hitem, hrest⟩ := List.forall_mem_cons.1 hcheck
    rw [List.mapM_cons]
    exact hitem.bind fun first _ => (ih hrest).bind fun others _ => .ok trivial

end Settles

/-! ## Clients -/

section

variable {book : Book} (hsound : ∀ client ∈ book.clients, client.IsSound)

include hsound

/-- Looking for a name in a message ends in an outcome. -/
theorem Extraction.run_isOutcome (message : String) (caller : Value) :
    ∃ answer, run book message caller = .ok answer ∧ answer.IsOutcome := by
  have hown : ∀ client ∈ (book.clientsOf caller true).mergeSort notShorter, client.IsSound :=
    fun client hclient => hsound client (book.clientsOf_subset caller true
      ((List.mergeSort_perm _ _).mem_iff.1 hclient))
  obtain ⟨found, hfound⟩ := firstNamed_ok (Text.lower (Text.respaced message)) hown
  unfold run
  simp only [Except.bind, hfound, Bind.bind]
  cases found with
  | some client => exact ⟨_, rfl, Answer.success_isOutcome _⟩
  | none =>
    cases Text.NameRun.first? (Text.respaced message) with
    | some name => exact ⟨_, rfl, Answer.success_isOutcome _⟩
    | none => exact ⟨_, rfl, Answer.failure_isOutcome _ _⟩

/-- Looking a profile up ends in an outcome. -/
theorem Profile.run_isOutcome (args : Args) (caller : Value) :
    ∃ answer, run book args caller = .ok answer ∧ answer.IsOutcome := by
  unfold run
  split
  · exact ⟨_, rfl, Answer.failure_isOutcome _ _⟩
  · obtain ⟨found, hfound, hmem⟩ := Book.findClient_ok hsound caller args.clientName true
    simp only [Bind.bind, Except.bind, hfound]
    cases found with
    | none => exact ⟨_, rfl, Answer.failure_isOutcome _ _⟩
    | some client =>
      obtain ⟨profile, hprofile, -⟩ := (hsound client (hmem client rfl)).profile_ok
      simp only [hprofile]
      exact ⟨_, rfl, Answer.success_isOutcome _⟩

omit hsound in
/-- Among sound clients the matches of a query are found. -/
theorem Search.found_ok (query : String) {clients : List Client}
    (hclients : ∀ client ∈ clients, client.IsSound) :
    ∃ matching, found query clients = .ok matching := by
  induction clients with
  | nil => exact ⟨[], rfl⟩
  | cons client rest ih =>
    obtain ⟨hclient, hrest⟩ := List.forall_mem_cons.1 hclients
    obtain ⟨⟨first, last⟩, hnames⟩ := hclient.hasNames
    obtain ⟨email, hemail⟩ := hclient.email
    obtain ⟨others, hothers⟩ := ih hrest
    obtain ⟨hit, hhit⟩ : ∃ hit, finds query client = .ok hit := by
      rw [finds, hnames, hemail]
      simp only [Bind.bind, Except.bind, Value.lowered]
      split <;> exact ⟨_, rfl⟩
    rw [found, hhit, hothers]
    exact ⟨_, rfl⟩

/-- Searching clients ends in an outcome. -/
theorem Search.run_isOutcome (args : Args) (caller : Value) :
    ∃ answer, run book args caller = .ok answer ∧ answer.IsOutcome := by
  have hown : ∀ client ∈ book.clientsOf caller args.withArchived, client.IsSound :=
    fun client hclient => hsound client (book.clientsOf_subset caller args.withArchived hclient)
  obtain ⟨matching, hmatching⟩ := found_ok (Text.trim (Text.lower args.query)) hown
  unfold run
  simp only [Bind.bind, Except.bind, hmatching]
  exact ⟨_, rfl, Answer.success_isOutcome _⟩

end

/-! ## Meetings -/

/-- A moment is shown in a region, unless it is outside the calendar there. -/
theorem Calendar.Moment.localIn_settles (moment : Moment) (region : Region) :
    Settles Fault.IsOverrun (fun _ => True) (moment.localIn region) := by
  unfold localIn
  split
  · exact .ok trivial
  · exact .accident rfl

/-- So is a meeting. -/
theorem Meeting.shown_settles (book : Book) (region : Region) (caller : Value)
    (meeting : Meeting) :
    Settles Fault.IsOverrun (fun _ => True) (meeting.shown book region caller) :=
  (meeting.start.localIn_settles region).bind fun _ _ => .ok trivial

/-- Listing meetings by dates ends in an outcome, unless it leaves the calendar. -/
theorem Range.run_settles (book : Book) (region : Region) (clock : Moment) (expression : String)
    (caller : Value) :
    Settles Fault.IsOverrun Answer.IsOutcome (run book region clock expression caller) := by
  unfold run
  refine (clock.localIn_settles region).bind fun now _ => ?_
  split
  · exact .ok (Answer.failure_isOutcome _ _)
  · exact .accident rfl
  · refine (Settles.mapM fun meeting _ => meeting.shown_settles book region caller).bind
      fun items _ => ?_
    exact .ok (Answer.success_isOutcome _)

/-- Nothing is wrong with a new meeting: no detail is missing, and its start and
client are known. -/
structure Draft.Accepts (book : Book) (region : Region) (args : Args) (caller : Value)
    (start : Moment) (found : Client) : Prop where
  missing : missing args = []
  duration : 0 < args.duration
  start : Moment.readLocal? region args.dateTime = some start
  client : client book caller args = .ok (some found)

/-- A new meeting is refused for a duration that is too long to be written: no detail is
missing, and the duration is negative with too many digits. -/
def Draft.RefusesLong (args : Args) : Prop :=
  missing args = [] ∧ args.duration ≤ 0 ∧ Numeral.isLong args.duration

/-- A duration that is not positive is named in a failure, unless it is too long. -/
theorem Draft.badDuration_cases (minutes : Int) :
    (¬ Numeral.isLong minutes ∧ ∃ answer, badDuration minutes = .ok answer ∧ answer.IsOutcome) ∨
      (Numeral.isLong minutes ∧ badDuration minutes = .error (.unwritten .longNumber)) := by
  unfold badDuration
  rw [Value.shown?, Value.written_int]
  by_cases hlong : Numeral.isLong minutes = true
  · exact .inr ⟨hlong, by rw [if_pos hlong]⟩
  · rw [if_neg hlong]
    exact .inl ⟨hlong, _, rfl, Answer.failure_isOutcome _ _⟩

/-- So is the id of a meeting that is not known. -/
theorem Edit.notFound_cases (id : Int) :
    (¬ Numeral.isLong id ∧ ∃ answer, notFound id = .ok answer ∧ answer.IsOutcome) ∨
      (Numeral.isLong id ∧ notFound id = .error (.unwritten .longNumber)) := by
  unfold notFound
  rw [Value.shown?, Value.written_int]
  by_cases hlong : Numeral.isLong id = true
  · exact .inr ⟨hlong, by rw [if_pos hlong]⟩
  · rw [if_neg hlong]
    exact .inl ⟨hlong, _, rfl, Answer.failure_isOutcome _ _⟩

section

variable {book : Book} (hsound : ∀ client ∈ book.clients, client.IsSound)

include hsound

/-- Listing the meetings with a client ends in an outcome, unless it leaves the
calendar. -/
theorem WithClient.run_settles (region : Region) (name : String) (caller : Value) :
    Settles Fault.IsOverrun Answer.IsOutcome (run book region name caller) := by
  obtain ⟨found, hfound, -⟩ := Book.findClient_ok hsound caller name true
  unfold run
  rw [hfound]
  cases found with
  | none => exact .ok (Answer.failure_isOutcome _ _)
  | some client =>
    refine (Settles.mapM fun meeting _ => meeting.shown_settles book region caller).bind
      fun items _ => ?_
    exact .ok (Answer.success_isOutcome _)

/-- Among sound clients the one that a draft is about is found, or told to be
missing. -/
theorem Draft.client_ok (caller : Value) (args : Args) :
    ∃ found, client book caller args = .ok found := by
  unfold client
  split
  · exact ⟨_, rfl⟩
  · split
    · split
      · exact ⟨_, rfl⟩
      · rename_i name _ _
        obtain ⟨found, hfound, -⟩ := Book.findClient_ok hsound caller name false
        exact ⟨found, hfound⟩
    · exact ⟨_, rfl⟩

/-- Checking a new meeting comes to a refusal, to a duration that cannot be named, or to
what is made of the reading at which its start is shown. -/
theorem Draft.run_cases (region : Region) (args : Args) (caller : Value) :
    (∃ answer, run book region args caller = .ok answer ∧ answer.IsOutcome ∧
      ¬ RefusesLong args ∧ ∀ start found, ¬ Accepts book region args caller start found) ∨
    (RefusesLong args ∧ run book region args caller = .error (.unwritten .longNumber)) ∨
    ∃ start found make, Accepts book region args caller start found ∧
      run book region args caller = (start.localIn region).map make ∧
      ∀ shown, (make shown).IsOutcome := by
  obtain ⟨found, hfound⟩ := client_ok hsound caller args
  unfold run
  dsimp only
  split
  · rename_i hmissing
    exact .inl ⟨_, rfl, Answer.failure_isOutcome _ _, fun hlong => hmissing hlong.1,
      fun _ _ haccepts => hmissing haccepts.missing⟩
  · rename_i hcomplete
    split
    · rename_i hduration
      rcases badDuration_cases args.duration with ⟨hshort, answer, hanswer, houtcome⟩ |
        ⟨hlong, hfault⟩
      · exact .inl ⟨answer, hanswer, houtcome, fun hlong => hshort hlong.2.2,
          fun _ _ haccepts => Int.not_le.2 haccepts.duration hduration⟩
      · exact .inr (.inl ⟨⟨not_not.1 hcomplete, hduration, hlong⟩, hfault⟩)
    · rename_i hduration
      have hwritten : ¬ RefusesLong args := fun hlong => hduration hlong.2.1
      split
      · rename_i hread
        refine .inl ⟨_, rfl, Answer.failure_isOutcome _ _, hwritten, fun _ _ haccepts => ?_⟩
        rw [haccepts.start] at hread
        cases hread
      · rename_i start hread
        rw [hfound]
        cases found with
        | none =>
          refine .inl ⟨_, rfl, Answer.failure_isOutcome _ _, hwritten, fun _ _ haccepts => ?_⟩
          rw [haccepts.client] at hfound
          cases hfound
        | some client =>
          refine .inr (.inr ⟨start, client, _,
            ⟨not_not.1 hcomplete, Int.not_le.1 hduration, hread, hfound⟩,
            bind_pure_comp _ (start.localIn region), fun shown => Answer.success_isOutcome _⟩)

/-- Checking a new meeting ends in an outcome, unless it leaves the calendar or meets a
duration that is too long. -/
theorem Draft.run_settles (region : Region) (args : Args) (caller : Value) :
    Settles Fault.IsExcess Answer.IsOutcome (run book region args caller) := by
  rcases run_cases hsound region args caller with
    ⟨answer, hanswer, houtcome, -⟩ | ⟨-, hfault⟩ | ⟨start, found, make, -, hmake, houtcome⟩
  · rw [hanswer]
    exact .ok houtcome
  · rw [hfault]
    exact .accident (.inr rfl)
  · rw [hmake]
    exact ((start.localIn_settles region).map fun shown _ => houtcome shown).mono
      fun _ hoverrun => .inl hoverrun

/-- Checking a new meeting meets a duration that is too long exactly when it is refused for
it. -/
theorem Draft.run_eq_unwritten_iff (region : Region) (args : Args) (caller : Value) :
    run book region args caller = .error (.unwritten .longNumber) ↔ RefusesLong args := by
  rcases run_cases hsound region args caller with
    ⟨answer, hanswer, -, hwritten, -⟩ | ⟨hlong, hfault⟩ | ⟨start, found, make, haccepts, hmake, -⟩
  · rw [hanswer]
    exact iff_of_false (fun herror => by cases herror) hwritten
  · exact iff_of_true hfault hlong
  · have hshown : Settles Fault.IsOverrun (fun _ => True) ((start.localIn region).map make) :=
      (start.localIn_settles region).map fun _ _ => trivial
    rw [hmake]
    exact ⟨fun herror => absurd herror (hshown.ne_error Fault.not_isOverrun_unwritten),
      fun hlong => absurd hlong.2.1 (Int.not_le.2 haccepts.duration)⟩

end

/-- The new start of a meeting is shown or refused, unless it is outside the
calendar. -/
theorem Edit.newTime_settles (region : Region) (args : Args) :
    Settles Fault.IsOverrun (fun _ => True) (newTime region args) := by
  unfold newTime
  split
  · exact .ok trivial
  · split
    · exact .ok trivial
    · rename_i start _
      exact (start.localIn_settles region).map fun _ _ => trivial

/-- A new start is refused for its text. -/
theorem Edit.newTime_refusal {region : Region} {args : Args} {refusal : Refusal}
    (hrefused : newTime region args = .ok (.error refusal)) :
    ∃ text, refusal = .badDateTime text := by
  unfold newTime at hrefused
  split at hrefused
  · cases hrefused
  · split at hrefused
    · cases hrefused
      exact ⟨_, rfl⟩
    · rename_i start _
      cases hshown : start.localIn region <;> rw [hshown] at hrefused <;> cases hrefused

/-- A new duration is refused when it is not positive. -/
theorem Edit.newDuration_eq_error {args : Args} {refusal : Refusal} :
    newDuration args = .error refusal ↔
      ∃ minutes, args.duration = some minutes ∧ minutes ≤ 0 ∧ .badDuration minutes = refusal := by
  unfold newDuration
  cases args.duration with
  | none => simp
  | some minutes =>
    dsimp only
    split <;> rename_i hsign <;> simp [hsign]

/-- Changes to a meeting are refused for a number that is too long to be written: the
meeting is not known by its id, or it can be shown, and with its new start, but its new
duration is negative. -/
def Edit.RefusesLong (book : Book) (region : Region) (args : Args) (caller : Value) : Prop :=
  (book.meeting? caller (.int args.meetingId) = none ∧ Numeral.isLong args.meetingId) ∨
    ∃ meeting current time minutes, book.meeting? caller (.int args.meetingId) = some meeting ∧
      meeting.shown book region caller = .ok current ∧ newTime region args = .ok (.ok time) ∧
      args.duration = some minutes ∧ minutes ≤ 0 ∧ Numeral.isLong minutes

/-- A refusal names what is wrong, unless this is a duration that is too long. -/
theorem Edit.Refusal.answer_settles (refusal : Refusal) :
    Settles Fault.IsExcess Answer.IsOutcome refusal.answer := by
  cases refusal with
  | badDateTime text => exact .ok (Answer.failure_isOutcome _ _)
  | badDuration minutes =>
    rw [answer]
    rcases Draft.badDuration_cases minutes with ⟨-, answer, hanswer, houtcome⟩ | ⟨-, hfault⟩
    · exact hanswer ▸ .ok houtcome
    · exact hfault ▸ .accident (.inr rfl)

/-- A refusal does not leave the calendar. -/
theorem Edit.Refusal.answer_ne_overrun (refusal : Refusal) :
    refusal.answer ≠ .error .dateOutOfRange := by
  cases refusal with
  | badDateTime text => simp [answer]
  | badDuration minutes =>
    rcases Draft.badDuration_cases minutes with ⟨-, answer, hanswer, -⟩ | ⟨-, hfault⟩
    · simp [Refusal.answer, hanswer]
    · simp [Refusal.answer, hfault]

/-- A refusal meets a number that is too long exactly when this is a duration. -/
theorem Edit.Refusal.answer_eq_unwritten_iff (refusal : Refusal) :
    refusal.answer = .error (.unwritten .longNumber) ↔
      ∃ minutes, refusal = .badDuration minutes ∧ Numeral.isLong minutes := by
  cases refusal with
  | badDateTime text => simp [answer]
  | badDuration minutes =>
    rcases Draft.badDuration_cases minutes with ⟨hshort, answer, hanswer, -⟩ | ⟨hlong, hfault⟩
    · simp [Refusal.answer, hanswer, hshort]
    · simp [Refusal.answer, hfault, hlong]

/-- Checking changes to a meeting meets a number that is too long exactly when the changes
are refused for it. -/
theorem Edit.run_eq_unwritten_iff (book : Book) (region : Region) (args : Args) (caller : Value) :
    run book region args caller = .error (.unwritten .longNumber) ↔
      RefusesLong book region args caller := by
  unfold run
  cases hmeeting : book.meeting? caller (.int args.meetingId) with
  | none =>
    rcases notFound_cases args.meetingId with ⟨hshort, answer, hanswer, -⟩ | ⟨hlong, hfault⟩
    · simp [RefusesLong, hmeeting, hanswer, hshort]
    · simp [RefusesLong, hmeeting, hfault, hlong]
  | some meeting =>
    have hrefuses : RefusesLong book region args caller ↔ ∃ current time minutes,
        meeting.shown book region caller = .ok current ∧ newTime region args = .ok (.ok time) ∧
          args.duration = some minutes ∧ minutes ≤ 0 ∧ Numeral.isLong minutes := by
      simp [RefusesLong, hmeeting]
    rw [hrefuses]
    cases hcurrent : meeting.shown book region caller with
    | error accident =>
      have hother := (meeting.shown_settles book region caller).ne_error
        (@Fault.not_isOverrun_unwritten .longNumber)
      rw [hcurrent] at hother
      simpa [Bind.bind, Except.bind, hcurrent] using hother
    | ok current =>
      simp only [Bind.bind, Except.bind, hcurrent]
      cases htime : newTime region args with
      | error accident =>
        have hother := (newTime_settles region args).ne_error
          (@Fault.not_isOverrun_unwritten .longNumber)
        rw [htime] at hother
        simpa using hother
      | ok given =>
        cases given with
        | error refusal =>
          obtain ⟨text, rfl⟩ := newTime_refusal htime
          simp [Refusal.answer]
        | ok time =>
          cases hduration : newDuration args with
          | error refusal =>
            obtain ⟨minutes, hminutes, hnegative, rfl⟩ := newDuration_eq_error.1 hduration
            have hanswer := (Refusal.badDuration minutes).answer_eq_unwritten_iff
            simp [hanswer, hminutes, hnegative]
          | ok duration =>
            refine iff_of_false (by simp [pure, Except.pure]) ?_
            rintro ⟨_, _, minutes, _, _, hminutes, hnegative, -⟩
            have hrefused := newDuration_eq_error.2 ⟨minutes, hminutes, hnegative, rfl⟩
            cases hduration.symm.trans hrefused

/-- Checking changes to a meeting ends in an outcome, unless it leaves the calendar or meets
a number that is too long. -/
theorem Edit.run_settles (book : Book) (region : Region) (args : Args) (caller : Value) :
    Settles Fault.IsExcess Answer.IsOutcome (run book region args caller) := by
  unfold run
  split
  · rcases notFound_cases args.meetingId with ⟨-, answer, hanswer, houtcome⟩ | ⟨-, hfault⟩
    · exact hanswer ▸ .ok houtcome
    · exact hfault ▸ .accident (.inr rfl)
  · rename_i meeting _
    have hexcess : ∀ accident, Fault.IsOverrun accident → Fault.IsExcess accident :=
      fun _ hoverrun => .inl hoverrun
    refine ((meeting.shown_settles book region caller).mono hexcess).bind fun current _ => ?_
    refine ((newTime_settles region args).mono hexcess).bind fun time _ => ?_
    split
    · exact Refusal.answer_settles _
    · split
      · exact Refusal.answer_settles _
      · exact .ok (Answer.success_isOutcome _)

/-! ## What leaves the calendar -/

/-- A new meeting that nothing is wrong with starts at a moment outside the
calendar of the region where it is shown. -/
def Draft.Overruns (book : Book) (region : Region) (args : Args) (caller : Value) : Prop :=
  ∃ start found, Accepts book region args caller start found ∧ start.inRegion? region = none

/-- A changed meeting starts at a moment outside the calendar of the region where
it is shown. -/
def Edit.Overruns (book : Book) (region : Region) (args : Args) (caller : Value) : Prop :=
  ∃ meeting text start, book.meeting? caller (.int args.meetingId) = some meeting ∧
    args.dateTime = some text ∧ text ≠ "" ∧
    Moment.readLocal? region text = some start ∧ start.inRegion? region = none

/-- Checking a new meeting leaves the calendar exactly when its start does. -/
theorem Draft.run_eq_error_iff {book : Book} (hsound : ∀ client ∈ book.clients, client.IsSound)
    (region : Region) (args : Args) (caller : Value) :
    run book region args caller = .error .dateOutOfRange ↔ Overruns book region args caller := by
  rcases run_cases hsound region args caller with
    ⟨answer, hanswer, -, -, hrefused⟩ | ⟨hlong, hfault⟩ |
      ⟨start, found, make, haccepts, hmake, -⟩
  · rw [hanswer]
    refine ⟨fun herror => (by cases herror), ?_⟩
    rintro ⟨start, found, haccepts, -⟩
    exact absurd haccepts (hrefused start found)
  · rw [hfault]
    refine ⟨fun herror => (by cases herror), ?_⟩
    rintro ⟨start, found, haccepts, -⟩
    exact absurd hlong.2.1 (Int.not_le.2 haccepts.duration)
  · have houtside : (start.localIn region).map make = .error .dateOutOfRange ↔
        start.inRegion? region = none := by
      rw [← start.localIn_eq_error_iff region]
      cases start.localIn region <;> simp [Except.map]
    rw [hmake, houtside]
    constructor
    · exact fun hnone => ⟨start, found, haccepts, hnone⟩
    · rintro ⟨other, _, hother, hnone⟩
      have hstart := hother.start
      rw [haccepts.start, Option.some_inj] at hstart
      rwa [hstart]

/-- A new start leaves the calendar when it is a moment outside it. -/
theorem Edit.newTime_eq_error_iff (region : Region) (args : Args) :
    newTime region args = .error .dateOutOfRange ↔
      ∃ text start, args.dateTime = some text ∧ text ≠ "" ∧
        Moment.readLocal? region text = some start ∧ start.inRegion? region = none := by
  have hgiven : ∀ text, args.dateTime.filter (· ≠ "") = some text ↔
      args.dateTime = some text ∧ text ≠ "" := fun text => by simp [Option.filter_eq_some_iff]
  unfold newTime
  constructor
  · intro herror
    split at herror
    · cases herror
    · rename_i text htext
      split at herror
      · cases herror
      · rename_i start hstart
        obtain ⟨hdateTime, hnonempty⟩ := (hgiven text).1 htext
        refine ⟨text, start, hdateTime, hnonempty, hstart, ?_⟩
        rw [← start.localIn_eq_error_iff region]
        cases hshown : start.localIn region with
        | ok shown =>
          rw [hshown] at herror
          cases herror
        | error accident =>
          rw [hshown] at herror
          cases herror
          rfl
  · rintro ⟨text, start, hdateTime, hnonempty, hstart, houtside⟩
    rw [(hgiven text).2 ⟨hdateTime, hnonempty⟩]
    dsimp only
    rw [hstart]
    dsimp only
    rw [(start.localIn_eq_error_iff region).2 houtside]
    rfl

section

variable {book : Book} (hsound : ∀ meeting ∈ book.meetings, meeting.IsSound)

include hsound

/-- Listing meetings by dates leaves the calendar exactly when the dates do. -/
theorem Range.run_eq_error_iff {clock : Moment} (hzone : clock.zone.IsOrdinary)
    (hinner : clock.clock.IsInner) (region : Region) (expression : String) (caller : Value) :
    run book region clock expression caller = .error .dateOutOfRange ↔
      ReachesEnd (Text.lower (Text.trim expression)) := by
  obtain ⟨now, hnow, hend⟩ := Moment.shown_of_inner hzone hinner region
  rw [← resolve_outside_iff (Moment.zone_of_localIn hnow) hend]
  unfold run
  simp only [Bind.bind, Except.bind, hnow]
  cases resolve region now (Text.lower (Text.trim expression)) with
  | error cause => cases cause <;> simp [pure, Except.pure]
  | ok range =>
    obtain ⟨items, hitems⟩ := Book.shown_ok hsound region caller ⟨range.start, range.finish, .null⟩
    simp [hitems, pure, Except.pure]

/-- Checking changes to a meeting leaves the calendar exactly when its new start
does. -/
theorem Edit.run_eq_error_iff (region : Region) (args : Args) (caller : Value) :
    run book region args caller = .error .dateOutOfRange ↔ Overruns book region args caller := by
  unfold run
  cases hmeeting : book.meeting? caller (.int args.meetingId) with
  | none =>
    have hnone : ¬ Overruns book region args caller := by simp [Overruns, hmeeting]
    refine iff_of_false ?_ hnone
    rcases notFound_cases args.meetingId with ⟨-, answer, hanswer, -⟩ | ⟨-, hfault⟩
    · simp [hanswer]
    · simp [hfault]
  | some meeting =>
    obtain ⟨hzone, hinner⟩ := hsound meeting (List.mem_of_find?_eq_some hmeeting)
    obtain ⟨start, hstart, -⟩ := Moment.localIn_of_inner hzone hinner region
    obtain ⟨current, hcurrent⟩ : ∃ current, meeting.shown book region caller = .ok current :=
      ⟨_, by rw [Meeting.shown, hstart]; rfl⟩
    have hnew : Overruns book region args caller ↔
        newTime region args = .error .dateOutOfRange := by
      rw [newTime_eq_error_iff]
      simp [Overruns, hmeeting]
    rw [hnew]
    simp only [Bind.bind, Except.bind, hcurrent]
    cases newTime region args with
    | error accident => simp
    | ok set =>
      cases set with
      | error refusal => simpa using refusal.answer_ne_overrun
      | ok time =>
        cases newDuration args with
        | error refusal => simpa using refusal.answer_ne_overrun
        | ok duration => simp [pure, Except.pure]

end

/-! ## All of them -/

/-- What a call comes to, if its operation reads arguments and then looks its
answer up without touching the state. -/
theorem Operations.handler_settles {σ α : Type} (operations : Operations σ)
    (operation : Operation σ) {read : Value → Checked α} {run : α → Value → Except Fault Answer}
    (hfind : operations.find? operation.name = some operation)
    (hprepare : operation.prepare = fun v => (read v).map fun own caller state =>
      (.now (.ofExcept (run own caller)), state))
    (args : Value) {caller : Value} {met : Fault → Prop}
    (hrun : ∀ own, Settles met Answer.IsOutcome (run own caller)) :
    ∃ answer,
      (∀ state, operations.handler ⟨operation.name, args, caller⟩ state = (.now answer, state)) ∧
      (answer.IsOutcome ∨ ∃ accident, met accident ∧ answer = .fault accident) ∧
      ∀ accident, answer = .fault accident ↔
        ∃ own, read args = .valid own ∧ run own caller = .error accident := by
  unfold handler
  simp only [hfind, hprepare]
  cases hread : read args with
  | valid own =>
    have hown := hrun own
    generalize hresult : run own caller = result at hown
    cases hown with
    | @ok answer hgood =>
      refine ⟨answer, fun state => by simp only [Checked.map, hresult, Answer.ofExcept],
        .inl hgood, fun accident => iff_of_false (hgood.ne_fault accident) ?_⟩
      rintro ⟨other, hother, herror⟩
      cases hother
      rw [hresult] at herror
      cases herror
    | @accident accident hmet =>
      refine ⟨.fault accident,
        fun state => by simp only [Checked.map, hresult, Answer.ofExcept],
        .inr ⟨accident, hmet, rfl⟩, fun other => ⟨?_, ?_⟩⟩
      · intro hother
        cases hother
        exact ⟨own, rfl, hresult⟩
      · rintro ⟨same, hsame, herror⟩
        cases hsame
        rw [hresult] at herror
        cases herror
        rfl
  | invalid problems =>
    have hunfit : (unfit operation.name problems).IsOutcome := Answer.failure_isOutcome _ _
    refine ⟨_, fun state => rfl, .inl hunfit,
      fun accident => iff_of_false (hunfit.ne_fault accident) ?_⟩
    rintro ⟨own, hown, -⟩
    cases hown

namespace Surroundings

variable {σ : Type}

/-- Surroundings are away from the ends of the calendar: the book is that of a
seed, and neither its meetings nor the clock are in the first or last year. -/
structure IsInner (around : Surroundings σ) : Prop where
  seeded : ∃ seed, Book.ofSeed (.region around.region) seed = .ok around.book
  meetings : ∀ meeting ∈ around.book.meetings, meeting.start.clock.IsInner
  zone : around.clock.zone.IsOrdinary
  clock : around.clock.clock.IsInner

/-- A call is refused for a number that is too long to be written. -/
def RefusesLong (around : Surroundings σ) (operation : String) (args caller : Value) : Prop :=
  match operation with
  | "prepare_meeting_data" => ∃ details, Draft.read args = .valid details ∧
      Draft.RefusesLong details
  | "prepare_edit_meeting" => ∃ changes, Edit.read args = .valid changes ∧
      Edit.RefusesLong around.book around.region changes caller
  | _ => False

/-- A call leaves the calendar by what it asks for. -/
def Overruns (around : Surroundings σ) (operation : String) (args caller : Value) : Prop :=
  match operation with
  | "get_meetings_by_date_range" => ∃ expression, Range.read args = .valid expression ∧
      Range.ReachesEnd (Text.lower (Text.trim expression))
  | "prepare_meeting_data" => ∃ details, Draft.read args = .valid details ∧
      Draft.Overruns around.book around.region details caller
  | "prepare_edit_meeting" => ∃ changes, Edit.read args = .valid changes ∧
      Edit.Overruns around.book around.region changes caller
  | _ => False

variable {around : Surroundings σ}

/-- The meetings of such surroundings are sound. -/
theorem IsInner.meetings_sound (hinner : around.IsInner) :
    ∀ meeting ∈ around.book.meetings, meeting.IsSound := by
  obtain ⟨seed, hseed⟩ := hinner.seeded
  exact fun meeting hmeeting =>
    ⟨Book.isOrdinary_of_ofSeed hseed meeting hmeeting, hinner.meetings meeting hmeeting⟩

/-- The names of the standard operations. -/
theorem names_operations (around : Surroundings σ) : around.operations.names =
    ["extract_client_name", "get_client_context", "search_clients", "get_site_documentation",
      "get_financial_news", "get_meetings_by_date_range", "get_meetings_by_client_name",
      "prepare_meeting_data", "prepare_edit_meeting"] :=
  rfl

/-- A call of an unknown operation is not refused for a number, and leaves no calendar. -/
theorem not_excess_of_unknown {operation : String}
    (hunknown : operation ∉ around.operations.names) (args caller : Value) :
    ¬ around.RefusesLong operation args caller ∧ ¬ around.Overruns operation args caller := by
  rw [names_operations] at hunknown
  constructor
  · unfold RefusesLong
    split
    · simp at hunknown
    · simp at hunknown
    · exact id
  · unfold Overruns
    split
    · simp at hunknown
    · simp at hunknown
    · simp at hunknown
    · exact id

/-- A call comes at once to an outcome or to one of two accidents, each of which is told by
what the call asks for. -/
structure Settled (around : Surroundings σ) (operation : String) (args caller : Value)
    (answer : Answer) : Prop where
  /-- Nothing but the answer comes of the call. -/
  answered : ∀ state,
    around.operations.handler ⟨operation, args, caller⟩ state = (.now answer, state)
  /-- The answer is an outcome, or an accident. -/
  outcome : answer.IsOutcome ∨ answer = .fault .dateOutOfRange ∨
    answer = .fault (.unwritten .longNumber)
  /-- A number is too long to be written. -/
  unwritten : answer = .fault (.unwritten .longNumber) ↔ around.RefusesLong operation args caller
  /-- A date leaves the calendar. -/
  overrun : around.IsInner →
    (answer = .fault .dateOutOfRange ↔ around.Overruns operation args caller)

variable {α : Type} {read : Value → Checked α} {run : α → Value → Except Fault Answer}
  {args caller : Value}

/-- An operation that only looks something up meets no accident. -/
theorem settled_of_ok (operation : Operation σ)
    (hfind : around.operations.find? operation.name = some operation)
    (hprepare : operation.prepare = fun v => (read v).map fun own caller state =>
      (.now (.ofExcept (run own caller)), state))
    (hrun : ∀ own, ∃ answer, run own caller = .ok answer ∧ answer.IsOutcome)
    (hnone : ¬ around.RefusesLong operation.name args caller ∧
      ¬ around.Overruns operation.name args caller) :
    ∃ answer, around.Settled operation.name args caller answer := by
  have hsettles : ∀ own, Settles (fun _ => False) Answer.IsOutcome (run own caller) := by
    intro own
    obtain ⟨answer, hanswer, houtcome⟩ := hrun own
    exact hanswer ▸ .ok houtcome
  obtain ⟨answer, hanswer, houtcome | ⟨_, hmet, -⟩, -⟩ :=
    around.operations.handler_settles operation hfind hprepare args hsettles
  · exact ⟨answer, hanswer, .inl houtcome, iff_of_false (houtcome.ne_fault _) hnone.1,
      fun _ => iff_of_false (houtcome.ne_fault _) hnone.2⟩
  · exact absurd hmet id

/-- An operation that shows dates meets the accidents that its own computation meets. -/
theorem settled_of_settles (operation : Operation σ)
    (hfind : around.operations.find? operation.name = some operation)
    (hprepare : operation.prepare = fun v => (read v).map fun own caller state =>
      (.now (.ofExcept (run own caller)), state))
    (hrun : ∀ own, Settles Fault.IsExcess Answer.IsOutcome (run own caller))
    (hrefuses : (∃ own, read args = .valid own ∧
      run own caller = .error (.unwritten .longNumber)) ↔
        around.RefusesLong operation.name args caller)
    (hoverruns : around.IsInner → ((∃ own, read args = .valid own ∧
      run own caller = .error .dateOutOfRange) ↔ around.Overruns operation.name args caller)) :
    ∃ answer, around.Settled operation.name args caller answer := by
  obtain ⟨answer, hanswer, hsettled, haccident⟩ :=
    around.operations.handler_settles operation hfind hprepare args hrun
  refine ⟨answer, hanswer, hsettled.imp_right ?_, (haccident _).trans hrefuses,
    fun hinner => (haccident _).trans (hoverruns hinner)⟩
  rintro ⟨accident, rfl | rfl, rfl⟩
  · exact .inl rfl
  · exact .inr rfl

/-- What can only leave the calendar meets no number that is too long. -/
theorem not_unwritten_of_overrun
    (hrun : ∀ own, Settles Fault.IsOverrun Answer.IsOutcome (run own caller)) :
    ¬ ∃ own, read args = .valid own ∧ run own caller = .error (.unwritten .longNumber) := by
  rintro ⟨own, -, herror⟩
  exact (hrun own).ne_error Fault.not_isOverrun_unwritten herror

end Surroundings

/-- **Operations answer with outcomes, unless a date leaves the calendar or a number is too
long.**  Over sound clients, every call of a standard operation that does not ask for news,
or of an operation that does not exist, with whatever arguments, comes at once to an outcome
or to one of two accidents.  One is that of a number that a failure would have to name; it
is met exactly if the call is refused for such a number.  The other is that of leaving the
calendar; when the clock and the meetings are away from its ends, it is met exactly if the
call asks for a date outside it. -/
theorem operations_settle {σ : Type} (around : Surroundings σ)
    (hclients : ∀ client ∈ around.book.clients, client.IsSound) (operation : String)
    (hnews : operation ≠ "get_financial_news") (args caller : Value) :
    ∃ answer, around.Settled operation args caller answer := by
  by_cases hknown : operation ∈ around.operations.names
  · rw [Surroundings.names_operations] at hknown
    simp only [List.mem_cons, List.not_mem_nil, or_false] at hknown
    rcases hknown with rfl | rfl | rfl | rfl | rfl | rfl | rfl | rfl | rfl
    · exact Surroundings.settled_of_ok (.extractClientName around.book) rfl rfl
        (fun message => Extraction.run_isOutcome hclients message caller) ⟨id, id⟩
    · exact Surroundings.settled_of_ok (.getClientContext around.book) rfl rfl
        (fun own => Profile.run_isOutcome hclients own caller) ⟨id, id⟩
    · exact Surroundings.settled_of_ok (.searchClients around.book) rfl rfl
        (fun own => Search.run_isOutcome hclients own caller) ⟨id, id⟩
    · let helped : Unit → Value → Except Fault Answer := fun _ _ =>
        .ok (.success [("documentation", .text siteDocumentation)])
      have hprepare : (.getSiteDocumentation : Operation σ).prepare = fun v =>
          (Operation.readNothing v).map fun own caller state =>
            (.now (.ofExcept (helped own caller)), state) := rfl
      exact Surroundings.settled_of_ok .getSiteDocumentation rfl hprepare
        (fun _ => ⟨_, rfl, Answer.success_isOutcome _⟩) ⟨id, id⟩
    · exact absurd rfl hnews
    · have hrun := fun expression =>
        Range.run_settles around.book around.region around.clock expression caller
      exact Surroundings.settled_of_settles
        (.getMeetingsByDateRange around.book around.region around.clock) rfl rfl
        (fun expression => (hrun expression).mono fun _ => .inl)
        (iff_of_false (Surroundings.not_unwritten_of_overrun hrun) id)
        fun hinner => exists_congr fun expression => and_congr_right fun _ =>
          Range.run_eq_error_iff hinner.meetings_sound hinner.zone hinner.clock around.region
            expression caller
    · have hrun := fun name => WithClient.run_settles hclients around.region name caller
      refine Surroundings.settled_of_settles
        (.getMeetingsByClientName around.book around.region) rfl rfl
        (fun name => (hrun name).mono fun _ => .inl)
        (iff_of_false (Surroundings.not_unwritten_of_overrun hrun) id)
        fun hinner => iff_of_false ?_ id
      rintro ⟨name, -, herror⟩
      obtain ⟨answer, hanswer, -⟩ :=
        WithClient.run_fulfils hinner.meetings_sound hclients around.region name caller
      cases hanswer.symm.trans herror
    · exact Surroundings.settled_of_settles
        (.prepareMeetingData around.book around.region) rfl rfl
        (fun details => Draft.run_settles hclients around.region details caller)
        (exists_congr fun details => and_congr_right fun _ =>
          Draft.run_eq_unwritten_iff hclients around.region details caller)
        fun _ => exists_congr fun details => and_congr_right fun _ =>
          Draft.run_eq_error_iff hclients around.region details caller
    · exact Surroundings.settled_of_settles
        (.prepareEditMeeting around.book around.region) rfl rfl
        (fun changes => Edit.run_settles around.book around.region changes caller)
        (exists_congr fun changes => and_congr_right fun _ =>
          Edit.run_eq_unwritten_iff around.book around.region changes caller)
        fun hinner => exists_congr fun changes => and_congr_right fun _ =>
          Edit.run_eq_error_iff hinner.meetings_sound around.region changes caller
  · have hfind : around.operations.find? operation = none := by
      refine List.find?_eq_none.2 fun known hmem hname => hknown ?_
      exact List.mem_map.2 ⟨known, hmem, eq_of_beq hname⟩
    have houtcome : (Operations.notImplemented operation).IsOutcome :=
      Answer.failure_isOutcome _ _
    have hnone := Surroundings.not_excess_of_unknown hknown args caller
    refine ⟨Operations.notImplemented operation, fun state => ?_, .inl houtcome,
      iff_of_false (houtcome.ne_fault _) hnone.1,
      fun _ => iff_of_false (houtcome.ne_fault _) hnone.2⟩
    simp only [Operations.handler, hfind]

/-- A meeting is to be moved to the first midnight of the calendar, as told far in
the east: in Rome that is before the calendar begins. -/
theorem operations_settle_in_east :
    let meeting : Value := .object [("id", .int 1), ("advisor_id", .int 1),
      ("subject", .text "Review"), ("date_time", .text "2026-03-10T10:00:00")]
    let client : Value := .object [("id", .int 1), ("advisor_id", .int 1),
      ("first_name", .text "Anna"), ("last_name", .text "Verdi")]
    let seed : Value := .object [("clients", .list [client]), ("meetings", .list [meeting])]
    let clock : Moment := ⟨⟨63908726400000000, by decide, by decide⟩, .constant hour, false⟩
    let fetch : News.Fetcher Unit := fun _ state => (.unreachable, state)
    let args : Value := .object
      [("meeting_id", .int 1), ("date_time", .text "0001-01-01T00:00:00+14:00")]
    ∃ book, Book.ofSeed (.region .rome) seed = .ok book ∧
      (∀ client ∈ book.clients, client.IsSound) ∧
      let around : Surroundings Unit := ⟨book, .rome, clock, "", fetch⟩
      around.IsInner ∧
        around.operations.handler ⟨"prepare_edit_meeting", args, .int 1⟩ () =
          (.now (.fault .dateOutOfRange), ()) := by
  intro meeting client seed clock fetch args
  let held : Meeting := ⟨.int 1, .int 1, .text "Review",
    ⟨⟨63908733600000000, by decide, by decide⟩, .region .rome, false⟩, .int 60, .null, .text "",
    .text ""⟩
  let known : Client := ⟨.int 1, .int 1, .text "Anna", .text "Verdi", .text "", .text "",
    .bool false, .bool false, .text "", .text "", .list []⟩
  let book : Book := ⟨[known], [held]⟩
  have hrecords : Book.records (.region .rome) seed = .ok ⟨[known], [held]⟩ := rfl
  have hsorted : Sorting.sort Book.startsBefore [held] = [held] :=
    List.perm_singleton.1 (Sorting.sort_perm _ _)
  have hseed : Book.ofSeed (.region .rome) seed = .ok book := by
    rw [Book.ofSeed_eq, hrecords]
    exact congrArg (fun meetings => Except.ok (Book.mk [known] meetings)) hsorted
  have hclients : ∀ client ∈ book.clients, client.IsSound := by
    intro client hclient
    rw [List.mem_singleton.1 hclient]
    exact ⟨⟨_, rfl⟩, ⟨_, rfl⟩, ⟨_, rfl⟩, ⟨_, rfl⟩, ⟨_, rfl⟩, ⟨_, rfl⟩, [], rfl, by simp⟩
  let around : Surroundings Unit := ⟨book, .rome, clock, "", fetch⟩
  have hinner : around.IsInner := by
    have hzone : IsOffset hour := by decide
    refine ⟨⟨seed, hseed⟩, ?_, hzone, by decide⟩
    intro meeting hmeeting
    rw [List.mem_singleton.1 hmeeting]
    decide
  have hoverruns : around.Overruns "prepare_edit_meeting" args (.int 1) :=
    ⟨⟨1, none, some "0001-01-01T00:00:00+14:00", none, none, none⟩, rfl, held,
      "0001-01-01T00:00:00+14:00", ⟨⟨0, by decide, by decide⟩, .constant (14 * hour), false⟩, rfl,
      rfl, by decide, by decide +kernel, by decide +kernel⟩
  obtain ⟨answer, hanswer⟩ :=
    operations_settle around hclients "prepare_edit_meeting" (by decide) args (.int 1)
  refine ⟨book, hseed, hclients, hinner, ?_⟩
  rw [← (hanswer.overrun hinner).2 hoverruns]
  exact hanswer.answered ()

end FlowDesk
