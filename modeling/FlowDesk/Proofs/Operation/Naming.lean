/-
# From a name in a message to the client

A name is looked for in two ways.  In a message, the names of the caller's clients are
searched for, the longest first, and the name of the one that is found is given out.
When the clients are asked for a name, it is normalised and compared with theirs in file
order, and only then with parts of them.

The two agree (`extracted_name_is_looked_up`) when the names of the caller's clients are
tidy and no two clients share a spelling: then a name that is given out is lowered to a
spelling of that client (`Client.spells_fullName`), however many words it has, and the
first client with this spelling is that one (`Book.exactMatch_of_spells`).
-/

import FlowDesk.Bundled.Regions
import FlowDesk.Proofs.Operation.Promises
import FlowDesk.Proofs.Text.Case

namespace FlowDesk

open Calendar

/-! ## Spellings -/

namespace Client

/-- The names of a client are tidy texts. -/
def HasTidyNames (client : Client) : Prop :=
  ∃ first last, client.firstName = .text first ∧ client.lastName = .text last ∧
    Text.IsTidy first ∧ Text.IsTidy last

/-- A text spells the name of a client: it is the lowered first and last name, in one
order or the other. -/
def Spells (client : Client) (name : String) : Prop :=
  ∃ first last, client.loweredNames = .ok (first, last) ∧
    (name = first ++ " " ++ last ∨ name = last ++ " " ++ first)

variable {client : Client}

/-- The full name of a client with tidy names is the first and the last one. -/
theorem fullName_of_tidy {first last : String} (hfirst : client.firstName = .text first)
    (hlast : client.lastName = .text last) (htidy : Text.IsTidy first) (htidy' : Text.IsTidy last) :
    client.fullName = first ++ " " ++ last := by
  have hshown : client.fullName = Text.trim (first ++ " " ++ last) := by
    rw [fullName, hfirst, hlast]
    rfl
  rw [hshown, (htidy.append_space htidy').trim_eq]

/-- The full name of a client with tidy names is tidy. -/
theorem HasTidyNames.fullName_tidy (hnames : client.HasTidyNames) :
    Text.IsTidy client.fullName := by
  obtain ⟨first, last, hfirst, hlast, htidy, htidy'⟩ := hnames
  rw [fullName_of_tidy hfirst hlast htidy htidy']
  exact htidy.append_space htidy'

/-- The full name of a client with tidy names is lowered to a spelling of it. -/
theorem HasTidyNames.spells_fullName (hnames : client.HasTidyNames) :
    client.Spells (Text.lower client.fullName) := by
  obtain ⟨first, last, hfirst, hlast, htidy, htidy'⟩ := hnames
  refine ⟨Text.lower first, Text.lower last, ?_, .inl ?_⟩
  · rw [loweredNames, hfirst, hlast]
    rfl
  · rw [fullName_of_tidy hfirst hlast htidy htidy', Text.lower_append_space]

/-- A client with tidy names has names to compare. -/
theorem HasTidyNames.loweredNames_ok (hnames : client.HasTidyNames) :
    ∃ first last, client.loweredNames = .ok (first, last) := by
  obtain ⟨first, last, hfirst, hlast, -⟩ := hnames
  exact ⟨_, _, by rw [loweredNames, hfirst, hlast]; rfl⟩

/-- What is compared with the lowered names of a client is whether it spells them. -/
theorem spells_iff {first last : String} (hnames : client.loweredNames = .ok (first, last))
    {name : String} :
    client.Spells name ↔ name = first ++ " " ++ last ∨ name = last ++ " " ++ first := by
  constructor
  · rintro ⟨own, other, hown, hspells⟩
    cases hnames.symm.trans hown
    exact hspells
  · exact fun hspells => ⟨first, last, hnames, hspells⟩

end Client

/-- No two of some clients share a spelling. -/
def SpelledApart (clients : List Client) : Prop :=
  clients.Pairwise fun one other => ∀ name, one.Spells name → ¬ other.Spells name

namespace Book

/-- Of clients that share no spelling, the one that is spelled is matched. -/
theorem exactMatch_of_spells {clients : List Client}
    (hnames : ∀ client ∈ clients, client.HasTidyNames) (hapart : SpelledApart clients)
    {client : Client} (hmem : client ∈ clients) {wanted : String} (hspells : client.Spells wanted) :
    exactMatch wanted clients = .ok (some client) := by
  induction clients with
  | nil => cases hmem
  | cons other rest ih =>
    obtain ⟨hother, hrest⟩ := List.forall_mem_cons.1 hnames
    obtain ⟨hfirst, hlater⟩ := List.pairwise_cons.1 hapart
    obtain ⟨first, last, hlowered⟩ := hother.loweredNames_ok
    rw [exactMatch, hlowered]
    simp only [bind, Except.bind, Bool.or_eq_true, decide_eq_true_eq]
    split
    · rename_i hmatch
      have hshared : other.Spells wanted := (Client.spells_iff hlowered).2 hmatch
      rcases List.mem_cons.1 hmem with rfl | hmem
      · rfl
      · exact (hfirst client hmem wanted hshared hspells).elim
    · rename_i hnone
      rcases List.mem_cons.1 hmem with rfl | hmem
      · exact (hnone ((Client.spells_iff hlowered).1 hspells)).elim
      · exact ih hrest hlater hmem

/-- A caller's client is found by its full name. -/
theorem findClient_fullName {book : Book} {caller : Value}
    (hnames : ∀ client ∈ book.clientsOf caller true, client.HasTidyNames)
    (hapart : SpelledApart (book.clientsOf caller true)) {client : Client}
    (hmem : client ∈ book.clientsOf caller true) :
    book.findClient caller client.fullName true = .ok (some client) := by
  have hlowered := (hnames client hmem).fullName_tidy.lower
  have hsome : Text.lower client.fullName ≠ "" := by
    intro hempty
    have hnonblank := hlowered.nonblank
    rw [hempty] at hnonblank
    exact hnonblank rfl
  have hmatch := exactMatch_of_spells hnames hapart hmem (hnames client hmem).spells_fullName
  simp only [findClient, hlowered.spaced, if_neg hsome, bind, Except.bind, hmatch]
  rfl

end Book

namespace Extraction

/-- The client whose name is found is one of those that were searched for. -/
theorem mem_of_firstNamed {lowered : String} {clients : List Client} {client : Client}
    (hfound : firstNamed lowered clients = .ok (some client)) : client ∈ clients := by
  induction clients with
  | nil => cases hfound
  | cons other rest ih =>
    rw [firstNamed] at hfound
    cases hlowered : other.loweredNames with
    | error fault =>
      rw [hlowered] at hfound
      cases hfound
    | ok names =>
      simp only [hlowered, bind, Except.bind] at hfound
      split at hfound
      · cases hfound
        exact List.mem_cons_self
      · exact List.mem_cons_of_mem _ (ih hfound)

/-- An answer with the id of a client gives the full name and the id of one of the
caller's clients. -/
theorem client_of_run {book : Book} {message : String} {caller : Value} {fields : Fields}
    {id : Value} (hrun : run book message caller = .ok (.value (.object fields)))
    (hid : fields.at? "client_id" = some id) :
    ∃ client ∈ book.clientsOf caller true,
      fields.at? "client_name" = some (.text client.fullName) ∧ client.id = id := by
  simp only [run] at hrun
  cases hfound : firstNamed (Text.lower (Text.respaced message))
      ((book.clientsOf caller true).mergeSort notShorter) with
  | error fault =>
    rw [hfound] at hrun
    cases hrun
  | ok found =>
    simp only [hfound, bind, Except.bind] at hrun
    cases found with
    | some client =>
      cases hrun
      cases hid
      exact ⟨client, (List.mergeSort_perm _ _).mem_iff.1 (mem_of_firstNamed hfound), rfl, rfl⟩
    | none =>
      dsimp only at hrun
      split at hrun <;> cases hrun <;> cases hid

end Extraction

/-! ## Calls -/

namespace Operations

variable {σ α : Type} (operations : Operations σ) (operation : Operation σ)
  {read : Value → Checked α} {run : α → Value → Except Fault Answer}

/-- A call with arguments that can be read comes at once to what is made of them. -/
theorem handler_of_read (hfind : operations.find? operation.name = some operation)
    (hprepare : operation.prepare = fun v => (read v).map fun own caller state =>
      (.now (.ofExcept (run own caller)), state))
    {args : Value} {own : α} (hread : read args = .valid own) (caller : Value) (state : σ) :
    operations.handler ⟨operation.name, args, caller⟩ state =
      (.now (.ofExcept (run own caller)), state) := by
  simp only [handler, hfind, hprepare, hread, Checked.map]

/-- A call with arguments that cannot be read is unfit. -/
theorem handler_of_unread (hfind : operations.find? operation.name = some operation)
    (hprepare : operation.prepare = fun v => (read v).map fun own caller state =>
      (.now (.ofExcept (run own caller)), state))
    {args : Value} {problems : List Problem} (hread : read args = .invalid problems)
    (caller : Value) (state : σ) :
    operations.handler ⟨operation.name, args, caller⟩ state =
      (.now (unfit operation.name problems), state) := by
  simp only [handler, hfind, hprepare, hread, Checked.map]

/-- A call that succeeds had arguments that could be read. -/
theorem read_of_success (hfind : operations.find? operation.name = some operation)
    (hprepare : operation.prepare = fun v => (read v).map fun own caller state =>
      (.now (.ofExcept (run own caller)), state))
    {args caller : Value} {state : σ} {fields : Fields}
    (hanswer : (operations.handler ⟨operation.name, args, caller⟩ state).1 =
      .now (.success fields)) :
    ∃ own, read args = .valid own ∧ run own caller = .ok (.success fields) := by
  cases hread : read args with
  | valid own =>
    rw [operations.handler_of_read operation hfind hprepare hread] at hanswer
    cases hrun : run own caller with
    | ok answer =>
      rw [hrun] at hanswer
      cases hanswer
      exact ⟨own, rfl, hrun⟩
    | error fault =>
      rw [hrun] at hanswer
      cases hanswer
  | invalid problems =>
    rw [operations.handler_of_unread operation hfind hprepare hread] at hanswer
    cases hanswer

/-- A call that comes to an object with more in it than a failure had arguments that could
be read. -/
theorem read_of_handler (hfind : operations.find? operation.name = some operation)
    (hprepare : operation.prepare = fun v => (read v).map fun own caller state =>
      (.now (.ofExcept (run own caller)), state))
    {args caller : Value} {state : σ} {fields : Fields}
    (hanswer : (operations.handler ⟨operation.name, args, caller⟩ state).1 =
      .now (.value (.object fields)))
    {name : String} {v : Value} (hfield : fields.at? name = some v)
    (hmore : name ∉ ["success", "error"]) :
    ∃ own, read args = .valid own ∧ run own caller = .ok (.value (.object fields)) := by
  cases hread : read args with
  | valid own =>
    rw [operations.handler_of_read operation hfind hprepare hread] at hanswer
    cases hrun : run own caller with
    | ok answer =>
      rw [hrun] at hanswer
      cases hanswer
      exact ⟨own, rfl, hrun⟩
    | error fault =>
      rw [hrun] at hanswer
      cases hanswer
  | invalid problems =>
    simp only [handler, hfind, hprepare, hread, Checked.map] at hanswer
    cases hanswer
    simp only [List.mem_cons, List.not_mem_nil, or_false, not_or] at hmore
    simp [Table.at?, Ne.symm hmore.1, Ne.symm hmore.2] at hfield

end Operations

namespace Surroundings

variable {σ : Type} (around : Surroundings σ)

/-- An operation finds a client by some arguments, whatever the state: its call succeeds at
once and gives the id. -/
def FindsClient (operation : String) (args caller id : Value) : Prop :=
  ∃ found : Fields, found.at? "success" = some (.bool true) ∧ found.at? "client_id" = some id ∧
    ∀ state, around.operations.handler ⟨operation, args, caller⟩ state =
      (.now (.value (.object found)), state)

variable {around} {given : Fields} {caller : Value} {client : Client}

/-- The profile of a client that is found by its name is given. -/
theorem findsClient_profile (hsound : client.IsSound) (hnames : client.HasTidyNames)
    (hfound : around.book.findClient caller client.fullName true = .ok (some client))
    (hname : given.at? "client_name" = some (.text client.fullName))
    (hquery : ∀ query ∈ given.at? "query", query.IsText) :
    around.FindsClient "get_client_context" (.object given) caller client.id := by
  obtain ⟨query, hread⟩ :
      ∃ query, Checked.optional given "query" "" Checked.text = .valid query := by
    cases habsent : given.at? "query" with
    | none => exact ⟨"", Checked.optional_eq_valid.2 (.inr ⟨habsent, rfl⟩)⟩
    | some v =>
      obtain ⟨s, rfl⟩ := hquery v habsent
      exact ⟨s, Checked.optional_eq_valid.2 (.inl ⟨_, habsent, rfl⟩)⟩
  have hargs : Profile.read (.object given) = .valid ⟨client.fullName, query⟩ :=
    Checked.seq_eq_valid.2 ⟨_, query, Checked.map_eq_valid.2 ⟨client.fullName,
      Checked.required_eq_valid.2 ⟨_, hname, rfl⟩, rfl⟩, hread, rfl⟩
  obtain ⟨profile, hprofile, -⟩ := hsound.profile_ok
  have hrun : Profile.run around.book ⟨client.fullName, query⟩ caller =
      .ok (.success [("client_id", client.id), ("client_info", profile),
        ("query", .text query)]) := by
    simp only [Profile.run, hnames.fullName_tidy.nonblank, if_false, bind, Except.bind, hfound,
      hprofile]
    rfl
  refine ⟨("success", .bool true) :: [("client_id", client.id), ("client_info", profile),
    ("query", .text query)], rfl, rfl, fun state => ?_⟩
  have hcall := around.operations.handler_of_read (.getClientContext around.book) rfl rfl hargs
    caller state
  rw [hrun] at hcall
  exact hcall

/-- The meetings with a client that is found by its name are listed. -/
theorem findsClient_meetings (hmeetings : ∀ meeting ∈ around.book.meetings, meeting.IsSound)
    (hfound : around.book.findClient caller client.fullName true = .ok (some client))
    (hname : given.at? "client_name" = some (.text client.fullName)) :
    around.FindsClient "get_meetings_by_client_name" (.object given) caller client.id := by
  have hargs : WithClient.read (.object given) = .valid client.fullName :=
    Checked.required_eq_valid.2 ⟨_, hname, rfl⟩
  obtain ⟨items, hitems⟩ :=
    Book.shown_ok hmeetings around.region caller ⟨none, none, client.id⟩
  let listed : Fields := ("success", .bool true) :: ([("client_id", client.id),
    ("client_name", .text client.fullName)] ++ Meeting.listing items s!"with {client.fullName}")
  have hrun : WithClient.run around.book around.region client.fullName caller =
      .ok (.value (.object listed)) := by
    simp only [WithClient.run, bind, Except.bind, hfound, hitems]
    rfl
  refine ⟨listed, rfl, rfl, fun state => ?_⟩
  have hcall := around.operations.handler_of_read
    (.getMeetingsByClientName around.book around.region) rfl rfl hargs caller state
  rw [hrun] at hcall
  exact hcall

end Surroundings

/-- **A name that is found in a message leads to the client it belongs to.**  Let the book
be that of a seed with sound clients, and its meetings be away from the ends of the
calendar.  Let the names of the caller's clients be tidy, and let no two of these clients
share a spelling.  If the id of a client is given for a message, then the name that is
given with it finds this client: its profile and the meetings with it are given under the
same id. -/
theorem extracted_name_is_looked_up {σ : Type} (around : Surroundings σ) {seed : Value}
    (hseed : Book.ofSeed (.region around.region) seed = .ok around.book)
    (hclients : ∀ client ∈ around.book.clients, client.IsSound)
    (hmeetings : ∀ meeting ∈ around.book.meetings, meeting.start.clock.IsInner) {caller : Value}
    (hnames : ∀ client ∈ around.book.clientsOf caller true, client.HasTidyNames)
    (hapart : SpelledApart (around.book.clientsOf caller true)) {args : Value} {state : σ}
    {fields : Fields} {id : Value}
    (hextracted : (around.operations.handler ⟨"extract_client_name", args, caller⟩ state).1 =
      .now (.value (.object fields)))
    (hid : fields.at? "client_id" = some id) :
    ∃ name, fields.at? "client_name" = some (.text name) ∧
      ∀ given : Fields, given.at? "client_name" = some (.text name) →
        around.FindsClient "get_meetings_by_client_name" (.object given) caller id ∧
        ((∀ query ∈ given.at? "query", query.IsText) →
          around.FindsClient "get_client_context" (.object given) caller id) := by
  obtain ⟨message, -, hrun⟩ := around.operations.read_of_handler
    (.extractClientName around.book) rfl rfl hextracted hid (by decide)
  obtain ⟨client, hmem, hname, rfl⟩ := Extraction.client_of_run hrun hid
  have hfound := Book.findClient_fullName hnames hapart hmem
  have hsound := hclients client (around.book.clientsOf_subset caller true hmem)
  have hlisted : ∀ meeting ∈ around.book.meetings, meeting.IsSound := fun meeting hmeeting =>
    ⟨Book.isOrdinary_of_ofSeed hseed meeting hmeeting, hmeetings meeting hmeeting⟩
  refine ⟨client.fullName, hname, fun given hgiven => ⟨?_, fun hquery => ?_⟩⟩
  · exact Surroundings.findsClient_meetings hlisted hfound hgiven
  · exact Surroundings.findsClient_profile hsound (hnames client hmem) hfound hgiven hquery

/-- A client with a surname of two words is named with the surname first, and with more
white space than needed. -/
theorem extracted_name_is_looked_up_surname_first :
    let client (id : Int) (first last : String) : Value := .object
      [("id", .int id), ("advisor_id", .int 7), ("first_name", .text first),
        ("last_name", .text last)]
    let seed : Value := .object
      [("clients", .list [client 1 "Luca" "Rossi", client 2 "Anna" "DE LUCA"])]
    let clock : Moment := ⟨⟨63871372800000000, by decide, by decide⟩, .region .rome, false⟩
    let fetch : News.Fetcher Unit := fun _ state => (.unreachable, state)
    let message : String := "And  de luca  anna?"
    let args : Value := .object [("message", .text message)]
    ∃ book, Book.ofSeed (.region .rome) seed = .ok book ∧
      let around : Surroundings Unit := ⟨book, .rome, clock, "", fetch⟩
      ∃ (fields : Fields) (name : String),
        (around.operations.handler ⟨"extract_client_name", args, .int 7⟩ ()).1 =
          .now (.value (.object fields)) ∧
        fields.at? "client_id" = some (.int 2) ∧ fields.at? "client_name" = some (.text name) ∧
        around.FindsClient "get_client_context" (.object [("client_name", .text name)]) (.int 7)
          (.int 2) := by
  intro client seed clock fetch message args
  let known (id : Int) (first last : String) : Client := ⟨.int id, .int 7, .text first, .text last,
    .text "", .text "", .bool false, .bool false, .text "", .text "", .list []⟩
  let luca := known 1 "Luca" "Rossi"
  let anna := known 2 "Anna" "DE LUCA"
  let book : Book := ⟨[luca, anna], []⟩
  have hrecords : Book.records (.region .rome) seed = .ok ⟨[luca, anna], []⟩ := rfl
  have hsorted : Sorting.sort Book.startsBefore [] = [] :=
    List.perm_nil.1 (Sorting.sort_perm _ _)
  have hseed : Book.ofSeed (.region .rome) seed = .ok book := by
    rw [Book.ofSeed_eq, hrecords]
    exact congrArg (fun meetings => Except.ok (Book.mk [luca, anna] meetings)) hsorted
  have hsound (id : Int) (first last : String) : (known id first last).IsSound :=
    ⟨⟨_, rfl⟩, ⟨_, rfl⟩, ⟨_, rfl⟩, ⟨_, rfl⟩, ⟨_, rfl⟩, ⟨_, rfl⟩, [], rfl, by simp⟩
  have hclients : ∀ client ∈ book.clients, client.IsSound := by
    simp only [book, List.forall_mem_cons, List.not_mem_nil, false_implies, implies_true, and_true]
    exact ⟨hsound _ _ _, hsound _ _ _⟩
  let around : Surroundings Unit := ⟨book, .rome, clock, "", fetch⟩
  have hown : book.clientsOf (.int 7) true = [luca, anna] := rfl
  have hnames : ∀ client ∈ around.book.clientsOf (.int 7) true, client.HasTidyNames := by
    rw [hown]
    simp only [List.forall_mem_cons, List.not_mem_nil, false_implies, implies_true, and_true]
    exact ⟨⟨"Luca", "Rossi", rfl, rfl, ⟨by decide +kernel, by decide +kernel⟩,
      ⟨by decide +kernel, by decide +kernel⟩⟩, ⟨"Anna", "DE LUCA", rfl, rfl,
      ⟨by decide +kernel, by decide +kernel⟩, ⟨by decide +kernel, by decide +kernel⟩⟩⟩
  have hspelled (id : Int) (first last : String) : (known id first last).loweredNames =
      .ok (Text.lower first, Text.lower last) := rfl
  have hapart : SpelledApart (around.book.clientsOf (.int 7) true) := by
    rw [hown, SpelledApart]
    simp only [List.pairwise_cons, List.mem_singleton, forall_eq, List.not_mem_nil, false_implies,
      implies_true, List.Pairwise.nil, and_true]
    intro name hone hother
    rcases (Client.spells_iff (hspelled _ _ _)).1 hone with rfl | rfl <;>
      rcases (Client.spells_iff (hspelled _ _ _)).1 hother with hsame | hsame <;>
      revert hsame <;> decide +kernel
  have hswap : [luca, anna].mergeSort Extraction.notShorter = [anna, luca] := by
    have hlonger : Extraction.notShorter luca anna = false := by decide
    simp [List.mergeSort, hlonger]
  have hlowered : Text.lower (Text.respaced message) = "and de luca anna?" := by decide +kernel
  have hoccurs : Text.contains "and de luca anna?"
      (Text.lower "DE LUCA" ++ " " ++ Text.lower "Anna") = true := by
    decide +kernel
  have hfirst : Extraction.firstNamed "and de luca anna?" [anna, luca] = .ok (some anna) := by
    rw [Extraction.firstNamed, hspelled]
    simp only [bind, Except.bind, hoccurs, Bool.or_true, if_true]
    rfl
  let fields : Fields := [("success", .bool true), ("client_name", .text anna.fullName),
    ("client_id", .int 2)]
  have hrun : Extraction.run book message (.int 7) = .ok (.value (.object fields)) := by
    simp only [Extraction.run, hown, hswap, hlowered, bind, Except.bind, hfirst]
    rfl
  have hread : Extraction.read args = .valid message := rfl
  have hextracted : (around.operations.handler ⟨"extract_client_name", args, .int 7⟩ ()).1 =
      .now (.value (.object fields)) := by
    have hcall := around.operations.handler_of_read (.extractClientName book) rfl rfl hread
      (.int 7) ()
    rw [hrun] at hcall
    exact congrArg Prod.fst hcall
  have hid : fields.at? "client_id" = some (.int 2) := rfl
  obtain ⟨name, hname, hfinds⟩ :=
    extracted_name_is_looked_up around hseed hclients (by simp [around, book]) hnames hapart
      hextracted hid
  exact ⟨book, hseed, fields, name, hextracted, hid, hname,
    (hfinds [("client_name", .text name)] rfl).2 (by simp [Table.at?])⟩

end FlowDesk
