/-
# What the standard operations promise

The bundled flows rely on six of the standard operations.  This module proves
what they promise over a sound book, with a clock away from the ends of the
calendar and a news service that does nothing unforeseen: each call comes back
with a mapping, and a mapping that says that the operation succeeded has the
fields that the flows speak of (`Surroundings.keptBy_promises`).

A news service does something unforeseen when the connection breaks in another
way than usual, when what it calls articles are none, and when a body is nested
too deeply to be read.  The last is an accident of the reader, and it is not
turned into a failure as other unreadable bodies are (`News.answer_deep`).
-/

import FlowDesk.Operation.Standard
import FlowDesk.Proofs.Book.Sound
import FlowDesk.Proofs.Form.Valid
import FlowDesk.Proofs.Template

namespace FlowDesk

open Calendar

/-! ## Answers -/

/-- A failure fulfils the promise of any operation that may fail. -/
theorem Answer.failure_fulfils (error : String) (extra : Fields) {promise : Promise}
    (hmay : promise.always = false) : (failure error extra).Fulfils promise :=
  ⟨_, rfl, fun halways => by simp [hmay] at halways, fun hsucceeded => by cases hsucceeded⟩

/-- A success fulfils a promise of fields that it has. -/
theorem Answer.success_fulfils {fields : Fields} {promise : Promise}
    (hgiven : ∀ path ∈ promise.gives,
      (Value.object (("success", .bool true) :: fields)).Fills path) :
    (success fields).Fulfils promise :=
  ⟨_, rfl, fun _ => rfl, fun _ => hgiven⟩

/-- What a call comes back with, if its operation reads arguments, may fail, and
looks its answer up without touching the state. -/
theorem Operations.handler_fulfils {σ α : Type} {operations : Operations σ} {call : Call}
    {operation : Operation σ} {promise : Promise} {read : Value → Checked α}
    {run : α → Value → Except Fault Answer}
    (hfind : operations.find? call.operation = some operation)
    (hprepare : operation.prepare = fun v => (read v).map fun args caller state =>
      (.now (.ofExcept (run args caller)), state))
    (hmay : promise.always = false)
    (hrun : ∀ args, read call.args = .valid args →
      ∀ caller, ∃ answer, run args caller = .ok answer ∧ answer.Fulfils promise) (state : σ) :
    (operations.handler call state).1.Fulfils promise := by
  unfold handler
  simp only [hfind, hprepare]
  cases hread : read call.args with
  | valid args =>
    obtain ⟨answer, hanswer, hfulfils⟩ := hrun args hread call.caller
    exact ⟨answer, congrArg (some ∘ Answer.ofExcept) hanswer, hfulfils⟩
  | invalid problems => exact ⟨_, rfl, Answer.failure_fulfils _ _ hmay⟩

/-! ## Clients -/

/-- A name that is found in a message is given. -/
def namePromise : Promise := ⟨[["client_name"]], false⟩

/-- The profile that is found is given, as far as it describes the client. -/
def profilePromise : Promise := ⟨Client.described.map fun name => ["client_info", name], false⟩

section

variable {book : Book} (hsound : ∀ client ∈ book.clients, client.IsSound)

include hsound

/-- Looking for a name in a message fulfils its promise. -/
theorem Extraction.run_fulfils (message : String) (caller : Value) :
    ∃ answer, run book message caller = .ok answer ∧ answer.Fulfils namePromise := by
  have hown : ∀ client ∈ (book.clientsOf caller true).mergeSort notShorter, client.IsSound := by
    intro client hclient
    exact hsound client (book.clientsOf_subset caller true
      ((List.mergeSort_perm _ _).mem_iff.1 hclient))
  obtain ⟨found, hfound⟩ := firstNamed_ok (Text.lower (Text.respaced message)) hown
  unfold run
  simp only [bind, Except.bind, hfound]
  cases found with
  | some client =>
    refine ⟨_, rfl, Answer.success_fulfils ?_⟩
    simp only [namePromise, List.forall_mem_singleton]
    exact Value.fills_of_text rfl
  | none =>
    cases Text.NameRun.first? (Text.respaced message) with
    | some name =>
      simp only
      refine ⟨_, rfl, Answer.success_fulfils ?_⟩
      simp only [namePromise, List.forall_mem_singleton]
      exact Value.fills_of_text rfl
    | none =>
      simp only
      exact ⟨_, rfl, Answer.failure_fulfils _ _ rfl⟩

/-- Looking a profile up fulfils its promise. -/
theorem Profile.run_fulfils (args : Args) (caller : Value) :
    ∃ answer, run book args caller = .ok answer ∧ answer.Fulfils profilePromise := by
  unfold run
  split
  · exact ⟨_, rfl, Answer.failure_fulfils _ _ rfl⟩
  · obtain ⟨found, hfound, hmem⟩ := Book.findClient_ok hsound caller args.clientName true
    simp only [bind, Except.bind, hfound]
    cases found with
    | none => exact ⟨_, rfl, Answer.failure_fulfils _ _ rfl⟩
    | some client =>
      obtain ⟨profile, hprofile, hfills⟩ := (hsound client (hmem client rfl)).profile_ok
      simp only [hprofile]
      refine ⟨_, rfl, Answer.success_fulfils ?_⟩
      simp only [profilePromise, List.forall_mem_map]
      intro name hname
      obtain ⟨v, hv, hgiven⟩ := hfills name hname
      exact ⟨v, hv, hgiven⟩

end

/-! ## Meetings -/

/-- A list of meetings that is given comes with a sentence and lines. -/
def rangePromise : Promise := ⟨[["message"], ["summary"]], false⟩

/-- A list of meetings with a client comes with the name of the client. -/
def withClientPromise : Promise := ⟨[["client_name"], ["message"], ["summary"]], false⟩

/-- A range of some days from today on is in the calendar, unless today is near
its end. -/
theorem Range.days_ok {now : Moment} {length : Nat} (hlength : length ≤ 7)
    (hnow : now.clock.ticks + 7 * fullDay < clockLimit) (label : String) :
    ∃ range, days now 0 length label = .ok range := by
  have hmidnight : (midnightOf now).clock.ticks ≤ now.clock.ticks := by
    have hday : 0 ≤ now.clock.timeOfDay := Int.emod_nonneg _ (by decide)
    unfold midnightOf
    split
    · rename_i clock hclock
      unfold Clock.ofTicks? at hclock
      split at hclock <;> cases hclock
      simp only [Clock.midnight]
      omega
    · exact Int.le_refl _
  rw [fullDay_eq] at hnow
  obtain ⟨later, hlater⟩ : ∃ later, (midnightOf now).later? (length * fullDay) = some later :=
    Moment.later?_of_near (by rw [fullDay_eq]; omega) (by rw [fullDay_eq]; omega)
  refine ⟨⟨some (midnightOf now), some later, label⟩, ?_⟩
  simp [days, daysAfter, hlater, bind, Except.bind, pure, Except.pure]

/-- A step calls its operation with the arguments as they are written, if they have no
slots and are not nested too deeply. -/
theorem Step.call_of_isPlain (context : Context) (operation : String) {args : Fields}
    (hplain : (Value.object args).isPlain = true)
    (hfits : (Value.object args).nesting ≤ Template.mostLevels) :
    call context operation args = .ok ⟨operation, .object args, context.caller.value⟩ := by
  rw [call, Template.fill, Template.expand_of_isPlain context.bindings _ _ hplain hfits]
  rfl

section

variable {book : Book} (hsound : ∀ meeting ∈ book.meetings, meeting.IsSound)

include hsound

/-- Sound meetings are shown in every region. -/
theorem Book.shown_ok (region : Region) (caller : Value) (span : Book.Span) :
    ∃ items, (book.meetingsOf caller span).mapM (Meeting.shown book region caller) = .ok items := by
  apply exists_mapM_eq_ok
  intro meeting hmeeting
  have hmem : meeting ∈ book.meetings := List.mem_of_mem_filter hmeeting
  obtain ⟨hzone, hinner⟩ := hsound meeting hmem
  obtain ⟨start, hstart, -⟩ := Moment.localIn_of_inner hzone hinner region
  exact ⟨_, by rw [Meeting.shown, hstart]; rfl⟩

/-- Listing the meetings with a client fulfils its promise. -/
theorem WithClient.run_fulfils (hclients : ∀ client ∈ book.clients, client.IsSound)
    (region : Region) (name : String) (caller : Value) :
    ∃ answer, run book region name caller = .ok answer ∧ answer.Fulfils withClientPromise := by
  obtain ⟨found, hfound, -⟩ := Book.findClient_ok hclients caller name true
  unfold run
  simp only [bind, Except.bind, hfound]
  cases found with
  | none => exact ⟨_, rfl, Answer.failure_fulfils _ _ rfl⟩
  | some client =>
    obtain ⟨items, hitems⟩ := Book.shown_ok hsound region caller ⟨none, none, client.id⟩
    simp only [hitems]
    refine ⟨_, rfl, Answer.success_fulfils ?_⟩
    simp only [withClientPromise, List.forall_mem_cons, List.not_mem_nil, false_implies,
      implies_true, and_true]
    exact ⟨Value.fills_of_text rfl, Value.fills_of_text rfl, Value.fills_of_text rfl⟩

/-- Listing the meetings of today, or of a week, fulfils its promise. -/
theorem Range.run_fulfils {clock : Moment} (hzone : clock.zone.IsOrdinary)
    (hinner : clock.clock.IsInner) (region : Region) {expression : String}
    (hexpression : expression = "today" ∨ expression = "week") (caller : Value) :
    ∃ answer, run book region clock expression caller = .ok answer ∧
      answer.Fulfils rangePromise := by
  obtain ⟨now, hnow, hticks⟩ := Moment.localIn_of_inner hzone hinner region
  have hnear : now.clock.ticks + 7 * fullDay < clockLimit := by
    have hend := hinner.bounds.2
    have hfull : 0 < fullDay := by decide
    omega
  obtain ⟨range, hrange⟩ :
      ∃ range, resolve region now (Text.lower (Text.trim expression)) = .ok range := by
    rcases hexpression with rfl | rfl
    · have hkey : Text.lower (Text.trim "today") = "today" := by decide +kernel
      rw [hkey]
      exact days_ok (by decide) hnear "for today"
    · have hkey : Text.lower (Text.trim "week") = "week" := by decide +kernel
      rw [hkey]
      exact days_ok (by decide) hnear "in the next 7 days"
  obtain ⟨items, hitems⟩ := Book.shown_ok hsound region caller ⟨range.start, range.finish, .null⟩
  unfold run
  simp only [bind, Except.bind, hnow, hrange, hitems]
  refine ⟨_, rfl, Answer.success_fulfils ?_⟩
  simp only [rangePromise, List.forall_mem_cons, List.not_mem_nil, false_implies,
    implies_true, and_true]
  exact ⟨Value.fills_of_text rfl, Value.fills_of_text rfl⟩

end

/-! ## News -/

/-- Headlines come with the news. -/
def newsPromise : Promise := ⟨[["headlines"]], false⟩

namespace News

/-- What a body says are its articles, if it is an object that says so, is a list
of objects. -/
def HoldsArticles : Value → Prop
  | .object fields => ∀ given ∈ Table.at? fields "articles",
      ∃ items : List Fields, given = .list (items.map .object)
  | _ => True

/-- A failure of the reader that a service causes by a body that is no JSON, and
not by one that is nested too deeply. -/
def IsShallow : Json.ReadError → Prop
  | .deepList | .deepObject => False
  | .malformed | .longNumber _ => True

/-- What comes back is foreseen: the service cannot be reached, is late, makes
itself not understood, refuses, or sends a body that holds articles. -/
def Fetched.IsForeseen : Fetched → Prop
  | .unreachable | .late | .garbled => True
  | .broken _ _ => False
  | .response status body => 200 ≤ status → status < 300 →
      (∀ v, body = .ok v → HoldsArticles v) ∧ ∀ error, body = .error error → IsShallow error

/-- The articles of a body that holds articles are brought to one shape. -/
theorem digest_fulfils (count : Nat) {body : Value} (hbody : HoldsArticles body) :
    ∃ answer, digest count body = .ok answer ∧ answer.Fulfils newsPromise := by
  obtain ⟨items, hitems⟩ : ∃ items : List Fields, articles body = .list (items.map .object) := by
    unfold articles
    split
    · rename_i fields
      cases hgiven : Table.at? fields "articles" with
      | none => exact ⟨[], rfl⟩
      | some given => exact hbody given hgiven
    · exact ⟨[], rfl⟩
  obtain ⟨news, hnews⟩ :
      ∃ news, ((items.map Value.object).take count).mapM normalize = .ok news := by
    apply exists_mapM_eq_ok
    intro v hv
    obtain ⟨fields, -, rfl⟩ := List.mem_map.1 (List.mem_of_mem_take hv)
    exact ⟨_, rfl⟩
  unfold digest
  simp only [hitems, firstParts, bind, Except.bind, hnews]
  refine ⟨_, rfl, Answer.success_fulfils ?_⟩
  simp only [newsPromise, List.forall_mem_singleton]
  exact Value.fills_of_text rfl

/-- A foreseen response is answered as promised. -/
theorem answerTo_fulfils (count : Int) {status : Int} {body : Except Json.ReadError Value}
    (hforeseen : (Fetched.response status body).IsForeseen) :
    (answerTo count status body).Fulfils newsPromise := by
  unfold answerTo
  split
  · exact Answer.failure_fulfils _ _ rfl
  · rename_i hstatus
    obtain ⟨hread, hunread⟩ := hforeseen (by omega) (by omega)
    cases body with
    | ok v =>
      obtain ⟨answer, hanswer, hfulfils⟩ := digest_fulfils count.toNat (hread v rfl)
      simp only [hanswer]
      exact hfulfils
    | error error =>
      cases error with
      | malformed => exact Answer.failure_fulfils _ _ rfl
      | longNumber digits => exact Answer.failure_fulfils _ _ rfl
      | deepList => exact (hunread _ rfl).elim
      | deepObject => exact (hunread _ rfl).elim

/-- What comes back as foreseen is answered as promised. -/
theorem answer_fulfils (address : Address) (count : Int) {fetched : Fetched}
    (hforeseen : fetched.IsForeseen) : (answer address count fetched).Fulfils newsPromise := by
  cases fetched with
  | unreachable => exact Answer.failure_fulfils _ _ rfl
  | late => exact Answer.failure_fulfils _ _ rfl
  | broken label message => exact hforeseen.elim
  | garbled => exact Answer.failure_fulfils _ _ rfl
  | response status body =>
    simp only [answer]
    split
    · exact answerTo_fulfils count hforeseen
    · exact Answer.failure_fulfils _ _ rfl

/-- A body that is nested too deeply is met with a fault, whatever the service
was asked for. -/
theorem answer_deep {address : Address} (habsolute : address.isAbsolute) (count : Int)
    {status : Int} (hleast : 200 ≤ status) (hgreatest : status < 300) {error : Json.ReadError}
    (hdeep : ¬ IsShallow error) :
    answer address count (.response status (.error error)) = .fault (.unreadable error) := by
  have hstatus : ¬ (status < 200 ∨ 300 ≤ status) := by omega
  simp only [answer, answerTo, if_pos habsolute, if_neg hstatus]
  cases error with
  | malformed => exact (hdeep trivial).elim
  | longNumber digits => exact (hdeep trivial).elim
  | deepList => rfl
  | deepObject => rfl

end News

/-! ## All of them -/

/-- The help text is always given. -/
def documentationPromise : Promise := ⟨[["documentation"]], true⟩

/-- What the standard operations promise to the steps of the bundled flows. -/
def standardPromises : Promises := fun operation args =>
  match operation, args with
  | "extract_client_name", _ => some namePromise
  | "get_client_context", _ => some profilePromise
  | "get_meetings_by_client_name", _ => some withClientPromise
  | "get_meetings_by_date_range", [("date_range", .text range)] =>
    if range = "today" ∨ range = "week" then some rangePromise else none
  | "get_financial_news", [("max_results", .int 5)] => some newsPromise
  | "get_site_documentation", _ => some documentationPromise
  | _, _ => none

/-- Surroundings are sound: the book is that of a seed and its clients are sound,
its meetings and the clock stay away from the ends of the calendar, and the news
service has an address and does nothing unforeseen. -/
structure Surroundings.IsSound {σ : Type} (around : Surroundings σ) : Prop where
  seeded : ∃ seed, Book.ofSeed (.region around.region) seed = .ok around.book
  clients : ∀ client ∈ around.book.clients, client.IsSound
  meetings : ∀ meeting ∈ around.book.meetings, meeting.start.clock.IsInner
  zone : around.clock.zone.IsOrdinary
  clock : around.clock.clock.IsInner
  address : ∃ address, News.address around.newsAddress 5 = .ok address
  news : ∀ address state, (around.fetch address state).1.IsForeseen

namespace Surroundings

variable {σ : Type} {around : Surroundings σ}

/-- The meetings of sound surroundings are sound. -/
theorem IsSound.meetings_sound (hsound : around.IsSound) :
    ∀ meeting ∈ around.book.meetings, meeting.IsSound := by
  obtain ⟨seed, hseed⟩ := hsound.seeded
  exact fun meeting hmeeting =>
    ⟨Book.isOrdinary_of_ofSeed hseed meeting hmeeting, hsound.meetings meeting hmeeting⟩

/-- A step that asks for five articles is answered with what comes back from the
address of the service. -/
theorem handler_news {address : Address}
    (haddress : News.address around.newsAddress 5 = .ok address) (caller : Value) (state : σ) :
    (around.operations.handler
      ⟨"get_financial_news", .object [("max_results", .int 5)], caller⟩ state).1 =
        .now (News.answer address 5 (around.fetch address.text state).1) := by
  have hfind : around.operations.find? "get_financial_news" =
      some (.getFinancialNews around.newsAddress around.fetch) := rfl
  have hread : News.read (.object [("max_results", .int 5)]) = .valid 5 := rfl
  simp only [Operations.handler, hfind, Operation.getFinancialNews, hread, Checked.map, haddress]

/-- The standard operations of sound surroundings keep their promises. -/
theorem keptBy_promises (hsound : around.IsSound) :
    standardPromises.KeptBy around.operations.handler := by
  intro operation args promise hpromise context call hcall state
  have hmeetings := hsound.meetings_sound
  obtain ⟨fields, rfl⟩ := Step.call_eq_ok hcall
  unfold standardPromises at hpromise
  split at hpromise
  · cases hpromise
    have hfind : around.operations.find? "extract_client_name" =
        some (.extractClientName around.book) := rfl
    exact Operations.handler_fulfils hfind rfl rfl
      (fun message _ => Extraction.run_fulfils hsound.clients message) state
  · cases hpromise
    have hfind : around.operations.find? "get_client_context" =
        some (.getClientContext around.book) := rfl
    exact Operations.handler_fulfils hfind rfl rfl
      (fun args _ => Profile.run_fulfils hsound.clients args) state
  · cases hpromise
    have hfind : around.operations.find? "get_meetings_by_client_name" =
        some (.getMeetingsByClientName around.book around.region) := rfl
    exact Operations.handler_fulfils hfind rfl rfl
      (fun name _ => WithClient.run_fulfils hmeetings hsound.clients around.region name) state
  · rename_i range
    obtain ⟨hrange, hpromise⟩ := Option.ite_none_right_eq_some.1 hpromise
    cases hpromise
    have hplain : (Value.object [("date_range", .text range)]).isPlain = true := by
      rcases hrange with rfl | rfl <;> decide +kernel
    have hfits : (Value.object [("date_range", .text range)]).nesting ≤ Template.mostLevels := by
      simp [Value.nesting, Value.fieldsNesting, Template.mostLevels]
    cases (Step.call_of_isPlain context "get_meetings_by_date_range" hplain hfits).symm.trans hcall
    have hfind : around.operations.find? "get_meetings_by_date_range" =
        some (.getMeetingsByDateRange around.book around.region around.clock) := rfl
    refine Operations.handler_fulfils hfind rfl rfl (fun expression hread caller => ?_) state
    have hexpression : expression = range := by
      cases hread
      rfl
    subst hexpression
    exact Range.run_fulfils hmeetings hsound.zone hsound.clock around.region hrange caller
  · cases hpromise
    obtain ⟨address, haddress⟩ := hsound.address
    have hplain : (Value.object [("max_results", .int 5)]).isPlain = true := rfl
    cases (Step.call_of_isPlain context "get_financial_news" hplain (by decide)).symm.trans hcall
    rw [handler_news haddress]
    exact ⟨_, rfl, News.answer_fulfils address 5 (hsound.news address.text state)⟩
  · cases hpromise
    refine ⟨.success [("documentation", .text siteDocumentation)], rfl, Answer.success_fulfils ?_⟩
    simp only [documentationPromise, List.forall_mem_singleton]
    exact Value.fills_of_text rfl
  · cases hpromise

end Surroundings

end FlowDesk
