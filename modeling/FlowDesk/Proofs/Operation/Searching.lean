/-
# A search lists whom a name finds

A client is found by a name in one of two ways: the name is the first and the last name, in
one order or the other, or one of its longer words is one of the two.  A search asks for
less.  Its query need only stand in the email or in the two names together, and a longer
word of it need only stand in one of them (`Search.Hits`).

The query is trimmed where the name is normalised, but both have the same words
(`Book.nameWords_trim`, `Book.nameWords_respaced`).  So whoever is found by a name has a
longer word of the query in a name, whichever way led there (`Client.HasWordOf`), and that
is enough to be listed (`search_lists_whom_a_name_finds`).
-/

import FlowDesk.Proofs.Operation.Namesakes

namespace FlowDesk

open Calendar

/-! ## Longer words -/

namespace Book

/-- Trimming a text leaves its longer words as they are. -/
theorem nameWords_trim (s : String) : nameWords (Text.trim s) = nameWords s := by
  rw [nameWords, Text.words_trim, nameWords]

/-- Normalising white space leaves the longer words of a text as they are. -/
theorem nameWords_respaced (s : String) : nameWords (Text.respaced s) = nameWords s := by
  rw [nameWords, Text.words_respaced, nameWords]

/-- The longer words of two texts with a space between them are those of both. -/
theorem mem_nameWords_append {s t word : String} :
    word ∈ nameWords (s ++ " " ++ t) ↔ word ∈ nameWords s ∨ word ∈ nameWords t := by
  rw [nameWords, Text.words_append_space, List.filter_append, List.mem_append, nameWords, nameWords]

/-- A longer word of a text stands in it. -/
theorem infix_of_mem_nameWords {s word : String} (hword : word ∈ nameWords s) :
    word.toList <:+: s.toList :=
  Text.infix_of_mem_words (List.mem_of_mem_filter hword)

end Book

namespace Client

variable {client : Client}

/-- A longer word of a text stands in the lowered first or last name of a client. -/
def HasWordOf (client : Client) (text : String) : Prop :=
  ∃ first last, client.loweredNames = .ok (first, last) ∧ ∃ word ∈ Book.nameWords text,
    word.toList <:+: first.toList ∨ word.toList <:+: last.toList

/-- A text with a longer word that spells a client's name has a word that stands in it. -/
theorem Spells.hasWordOf {name : String} (hspells : client.Spells name)
    (hlong : Book.nameWords name ≠ []) : client.HasWordOf name := by
  obtain ⟨first, last, hnames, hname⟩ := hspells
  obtain ⟨word, hword⟩ := List.exists_mem_of_ne_nil _ hlong
  have hpart : word ∈ Book.nameWords first ∨ word ∈ Book.nameWords last := by
    rcases hname with rfl | rfl
    · exact Book.mem_nameWords_append.1 hword
    · exact (Book.mem_nameWords_append.1 hword).symm
  exact ⟨first, last, hnames, word, hword,
    hpart.imp Book.infix_of_mem_nameWords Book.infix_of_mem_nameWords⟩

/-- A text of which a longer word is a name of a client has a word that stands in it. -/
theorem IsNamedBy.hasWordOf {text : String} (hnamed : client.IsNamedBy (Book.nameWords text)) :
    client.HasWordOf text := by
  obtain ⟨first, last, hnames, hfirst | hlast⟩ := hnamed
  · exact ⟨first, last, hnames, first, hfirst, .inl List.infix_rfl⟩
  · exact ⟨first, last, hnames, last, hlast, .inr List.infix_rfl⟩

end Client

namespace Book

/-- Whoever is chosen for a name is one of the clients, and either the name spells theirs
or a longer word of it is one of their names. -/
theorem mem_of_chosen {wanted : String} {clients : List Client} {client : Client}
    (hchosen : chosen? wanted clients = some client) :
    client ∈ clients ∧ (client.Spells wanted ∨ client.IsNamedBy (nameWords wanted)) := by
  rcases Option.or_eq_some_iff.1 hchosen with hfirst | ⟨-, honly⟩
  · obtain ⟨hmem, hspells⟩ := List.mem_filter.1 (List.mem_of_head? hfirst)
    exact ⟨hmem, .inl (of_decide_eq_true hspells)⟩
  · have hpartly : client ∈ partlyNamed wanted clients := by simp [eq_of_only? honly]
    obtain ⟨hmem, hnamed⟩ := List.mem_filter.1 hpartly
    exact ⟨hmem, .inr (of_decide_eq_true hnamed)⟩

/-- A client that is found by a name with a longer word is one of the caller's, and a longer
word of the name stands in one of the client's. -/
theorem hasWordOf_of_findClient {book : Book} {caller : Value} {name : String}
    {withArchived : Bool} {client : Client}
    (hfound : book.findClient caller name withArchived = .ok (some client))
    (hlong : nameWords (Text.lower name) ≠ []) :
    client ∈ book.clientsOf caller withArchived ∧ client.HasWordOf (Text.lower name) := by
  obtain ⟨hmem, hfits⟩ := mem_of_chosen (findClient_eq_chosen hfound).symm
  have hwords := nameWords_respaced (Text.lower name)
  have hhas : client.HasWordOf (Text.respaced (Text.lower name)) := by
    rcases hfits with hspells | hnamed
    · refine hspells.hasWordOf ?_
      rwa [hwords]
    · exact hnamed.hasWordOf
  rw [Client.HasWordOf, hwords] at hhas
  exact ⟨hmem, hhas⟩

end Book

/-! ## What a search comes to -/

namespace Search

/-- A query hits a client: it is not empty and stands in the lowered email or in the
lowered first and last name, or a longer word of it stands in one of these names. -/
def Hits (query : String) (client : Client) : Prop :=
  ∃ first last email, client.loweredNames = .ok (first, last) ∧ client.email.lowered = .ok email ∧
    (query ≠ "" ∧
        (query.toList <:+: email.toList ∨ query.toList <:+: (first ++ " " ++ last).toList) ∨
      ∃ word ∈ Book.nameWords query,
        word.toList <:+: first.toList ∨ word.toList <:+: last.toList)

/-- A client can be searched: the names and the email are texts. -/
structure Searchable (client : Client) : Prop where
  names : client.HasNames
  email : client.email.IsText

/-- A client can be compared with a query: the names are texts, and so is the email, which
the empty query is not compared with. -/
structure Comparable (query : String) (client : Client) : Prop where
  names : client.HasNames
  email : query ≠ "" → client.email.IsText

variable {query : String} {client : Client} {clients : List Client}

/-- What is compared with the data of a client is whether a query hits it. -/
theorem hits_iff {first last email : String} (hnames : client.loweredNames = .ok (first, last))
    (hemail : client.email.lowered = .ok email) :
    Hits query client ↔
      query ≠ "" ∧ (Text.contains email query = true ∨
        Text.contains (first ++ " " ++ last) query = true) ∨
      ∃ word ∈ Book.nameWords query,
        Text.contains first word = true ∨ Text.contains last word = true := by
  simp only [Text.contains_iff]
  constructor
  · rintro ⟨own, other, address, hown, haddress, hhits⟩
    cases hnames.symm.trans hown
    cases hemail.symm.trans haddress
    exact hhits
  · exact fun hhits => ⟨first, last, email, hnames, hemail, hhits⟩

/-- Whether a query hits a client can be decided. -/
instance decidableHits (query : String) (client : Client) : Decidable (Hits query client) :=
  match hnames : client.loweredNames, hemail : client.email.lowered with
  | .ok (_, _), .ok _ => decidable_of_iff _ (hits_iff hnames hemail).symm
  | .error _, _ => .isFalse fun ⟨_, _, _, hown, _⟩ => by cases hnames.symm.trans hown
  | _, .error _ => .isFalse fun ⟨_, _, _, _, hown, _⟩ => by cases hemail.symm.trans hown

/-- Only a text can be lowered. -/
theorem isText_of_lowered {v : Value} {s : String} (hlowered : v.lowered = .ok s) : v.IsText := by
  cases v with
  | text s => exact ⟨s, rfl⟩
  | _ => cases hlowered

/-- The empty query hits nobody. -/
theorem not_hits_empty : ¬ Hits "" client := by
  rintro ⟨-, -, -, -, -, ⟨hsome, -⟩ | ⟨word, hword, -⟩⟩
  · exact hsome rfl
  · cases hword

/-- A client that can be searched is hit by a query of which a longer word stands in one of
the names. -/
theorem hits_of_hasWordOf (hclient : client.email.IsText) (hhas : client.HasWordOf query) :
    Hits query client := by
  obtain ⟨first, last, hnames, hword⟩ := hhas
  obtain ⟨email, hemail⟩ := hclient
  exact ⟨first, last, Text.lower email, hnames, by rw [hemail, Value.lowered], .inr hword⟩

/-- What a search finds out about a client is whether the query hits it. -/
theorem finds_eq {hit : Bool} (hfinds : finds query client = .ok hit) :
    hit = decide (Hits query client) := by
  cases hnames : client.loweredNames with
  | error fault =>
    rw [finds, hnames] at hfinds
    cases hfinds
  | ok names =>
    obtain ⟨first, last⟩ := names
    simp only [finds, hnames, bind, Except.bind, pure, Except.pure] at hfinds
    by_cases hquery : query = ""
    · have hnone : Book.nameWords "" = [] := rfl
      subst hquery
      rw [hnone] at hfinds
      cases hfinds
      simp [not_hits_empty]
    · rw [if_neg hquery] at hfinds
      cases hemail : client.email.lowered with
      | error fault =>
        rw [hemail] at hfinds
        cases hfinds
      | ok email =>
        rw [hemail] at hfinds
        cases hfinds
        rw [Bool.eq_iff_iff, decide_eq_true_eq, hits_iff hnames hemail]
        simp [hquery]

/-- A query that is not empty can be compared with the clients that can be searched. -/
theorem comparable_iff (hquery : query ≠ "") : Comparable query client ↔ Searchable client :=
  ⟨fun hclient => ⟨hclient.names, hclient.email hquery⟩,
    fun hclient => ⟨hclient.names, fun _ => hclient.email⟩⟩

/-- A search finds something out exactly about the clients that its query can be compared
with. -/
theorem exists_finds_iff :
    (∃ hit, finds query client = .ok hit) ↔ Comparable query client := by
  simp only [finds, bind, Except.bind, pure, Except.pure]
  constructor
  · rintro ⟨hit, hfinds⟩
    split at hfinds
    · cases hfinds
    · rename_i names hnames
      refine ⟨⟨names, hnames⟩, fun hquery => ?_⟩
      rw [if_neg hquery] at hfinds
      cases hemail : client.email.lowered with
      | error fault =>
        rw [hemail] at hfinds
        cases hfinds
      | ok email => exact isText_of_lowered hemail
  · rintro ⟨⟨names, hnames⟩, hemail⟩
    by_cases hquery : query = ""
    · simp only [hnames, if_pos hquery]
      exact ⟨_, rfl⟩
    · obtain ⟨email, htext⟩ := hemail hquery
      simp only [hnames, if_neg hquery, htext, Value.lowered]
      exact ⟨_, rfl⟩

/-- The clients that are found are those that the query hits. -/
theorem found_eq {listed : List Client} (hfound : found query clients = .ok listed) :
    listed = clients.filter fun client => Hits query client := by
  induction clients generalizing listed with
  | nil =>
    cases hfound
    rfl
  | cons client rest ih =>
    rw [found] at hfound
    cases hfinds : finds query client with
    | error fault =>
      rw [hfinds] at hfound
      cases hfound
    | ok hit =>
      cases hothers : found query rest with
      | error fault =>
        rw [hfinds, hothers] at hfound
        cases hfound
      | ok others =>
        rw [hfinds, hothers] at hfound
        cases hfound
        rw [List.filter_cons, ← finds_eq hfinds, ih hothers]

/-- A search ends exactly if its query can be compared with all clients. -/
theorem exists_found_iff_comparable :
    (∃ listed, found query clients = .ok listed) ↔ ∀ client ∈ clients, Comparable query client := by
  induction clients with
  | nil => simp [found]
  | cons client rest ih =>
    rw [List.forall_mem_cons, ← ih, ← exists_finds_iff, found]
    cases finds query client with
    | error fault => simp [bind, Except.bind]
    | ok hit => cases found query rest <;> simp [bind, Except.bind, pure, Except.pure]

/-- A search for a query that is not empty ends exactly if all clients can be searched. -/
theorem exists_found_iff (hquery : query ≠ "") :
    (∃ listed, found query clients = .ok listed) ↔ ∀ client ∈ clients, Searchable client := by
  simp only [exists_found_iff_comparable, comparable_iff hquery]

/-- The answer that lists some clients. -/
def listing (listed : List Client) : Answer :=
  .success
    [ ("clients", .list (listed.map Client.summary)),
      ("count", .int listed.length),
      ("message", .text (countMessage listed.length)) ]

variable {book : Book} {caller : Value}

/-- A search that ends lists the clients that are hit, up to its limit. -/
theorem run_of_found (args : Args) {listed : List Client}
    (hfound : found (Text.trim (Text.lower args.query))
      (book.clientsOf caller args.withArchived) = .ok listed) :
    run book args caller = .ok (listing (listed.take args.limit.toNat)) := by
  simp only [run, bind, Except.bind, hfound, List.length_map, listing]
  rfl

/-- A search that meets an accident lists nobody. -/
theorem run_of_fault (args : Args) {fault : Fault}
    (hfound : found (Text.trim (Text.lower args.query))
      (book.clientsOf caller args.withArchived) = .error fault) :
    run book args caller = .error fault := by
  simp only [run, bind, Except.bind, hfound]

/-- A limit that is not below the number of records cuts nothing off. -/
theorem take_filter_clientsOf {limit : Int} (hlimit : (book.clients.length : Int) ≤ limit)
    (withArchived : Bool) (hits : Client → Bool) :
    ((book.clientsOf caller withArchived).filter hits).take limit.toNat =
      (book.clientsOf caller withArchived).filter hits := by
  have hown : (book.clientsOf caller withArchived).length ≤ book.clients.length :=
    List.length_filter_le _ _
  have hlisted := List.length_filter_le hits (book.clientsOf caller withArchived)
  exact List.take_of_length_le (by omega)

end Search

/-- **A search lists whom a name finds.**  Let a name of which the lowered form has a word
of three characters or more find a client, the archived ones being looked at or not.  Every
search for this name among the same clients, with a limit that is not below the number of
records, lists all clients that the name hits, and that client is one of them.  This is so
if the names and emails of these clients are texts; otherwise the search fails and lists
nobody. -/
theorem search_lists_whom_a_name_finds {σ : Type} (around : Surroundings σ) {caller : Value}
    {name : String} {withArchived : Bool} {client : Client}
    (hlong : ∃ word ∈ Text.words (Text.lower name), 3 ≤ word.length)
    (hfound : around.book.findClient caller name withArchived = .ok (some client))
    {args : Value} {limit : Int} (hread : Search.read args = .valid ⟨name, limit, withArchived⟩)
    (hlimit : (around.book.clients.length : Int) ≤ limit) :
    let scope := around.book.clientsOf caller withArchived
    let listed := scope.filter fun other => Search.Hits (Text.trim (Text.lower name)) other
    let call : Call := ⟨"search_clients", args, caller⟩
    ((∀ other ∈ scope, Search.Searchable other) →
      client ∈ listed ∧
        ∀ state, around.operations.handler call state = (.now (Search.listing listed), state)) ∧
    (¬ (∀ other ∈ scope, Search.Searchable other) →
      ∃ fault, ∀ state, around.operations.handler call state = (.now (.fault fault), state)) := by
  intro scope listed call
  obtain ⟨word, hword, hlength⟩ := hlong
  have hwords : Book.nameWords (Text.lower name) ≠ [] :=
    List.ne_nil_of_mem (List.mem_filter.2 ⟨hword, decide_eq_true hlength⟩)
  have hquery : Text.trim (Text.lower name) ≠ "" := by
    intro hempty
    rw [← Book.nameWords_trim, hempty] at hwords
    exact hwords rfl
  obtain ⟨hmem, hhas⟩ := Book.hasWordOf_of_findClient hfound hwords
  rw [Client.HasWordOf, ← Book.nameWords_trim] at hhas
  have hcall : ∀ state, around.operations.handler call state =
      (.now (.ofExcept (Search.run around.book ⟨name, limit, withArchived⟩ caller)), state) :=
    around.operations.handler_of_read (.searchClients around.book) rfl rfl hread caller
  refine ⟨fun hscope => ⟨?_, fun state => ?_⟩, fun hscope => ?_⟩
  · exact List.mem_filter.2 ⟨hmem,
      decide_eq_true (Search.hits_of_hasWordOf (hscope client hmem).email hhas)⟩
  · obtain ⟨own, hown⟩ := (Search.exists_found_iff hquery).2 hscope
    have hall : own.take limit.toNat = listed := by
      rw [Search.found_eq hown]
      exact Search.take_filter_clientsOf hlimit withArchived _
    rw [hcall state, Search.run_of_found ⟨name, limit, withArchived⟩ hown, hall]
    rfl
  · rw [← Search.exists_found_iff hquery] at hscope
    cases hown : Search.found (Text.trim (Text.lower name)) scope with
    | ok own => exact absurd ⟨own, hown⟩ hscope
    | error fault =>
      refine ⟨fault, fun state => ?_⟩
      rw [hcall state, Search.run_of_fault ⟨name, limit, withArchived⟩ hown]
      rfl

/-- A name that gives the surname first, with more white space than needed, finds one client
by the whole name.  The search lists this client and another, in whose name one of the words
stands. -/
theorem search_lists_whom_a_name_finds_surname_first :
    let known (id : Int) (first last : String) (archived : Bool) : Client := ⟨.int id, .int 7,
      .text first, .text last, .text "", .text "", .bool archived, .bool false, .text "",
      .text "", .list []⟩
    let luca := known 1 "Gianluca" "Rossi" false
    let anna := known 2 "Anna" "De Luca" true
    let book : Book := ⟨[luca, anna], []⟩
    let clock : Moment := ⟨⟨63871372800000000, by decide, by decide⟩, .region .rome, false⟩
    let fetch : News.Fetcher Unit := fun _ state => (.unreachable, state)
    let around : Surroundings Unit := ⟨book, .rome, clock, "", fetch⟩
    let name : String := " DE  luca\tANNA"
    let given : Fields := [("query", .text name), ("limit", .text "2"),
      ("include_archived", .bool true)]
    book.findClient (.int 7) name true = .ok (some anna) ∧
      around.operations.handler ⟨"search_clients", .object given, .int 7⟩ () =
        (.now (Search.listing [luca, anna]), ()) := by
  intro known luca anna book clock fetch around name given
  have hlowered : Text.lower name = " de  luca\tanna" := by decide +kernel
  have hlong : ∃ word ∈ Text.words (Text.lower name), 3 ≤ word.length :=
    ⟨"luca", by rw [hlowered]; decide, by decide⟩
  have hwanted : Text.respaced (Text.lower name) = "de luca anna" := by decide +kernel
  have hfound : around.book.findClient (.int 7) name true = .ok (some anna) := by
    rw [Book.findClient, hwanted]
    rfl
  have hread : Search.read (.object given) = .valid ⟨name, 2, true⟩ := rfl
  obtain ⟨hlists, -⟩ := search_lists_whom_a_name_finds around hlong hfound hread (by decide)
  have hscope : around.book.clientsOf (.int 7) true = [luca, anna] := rfl
  have hsearchable : ∀ other ∈ [luca, anna], Search.Searchable other := by
    rw [List.forall_mem_cons, List.forall_mem_singleton]
    exact ⟨⟨⟨_, rfl⟩, _, rfl⟩, ⟨⟨_, rfl⟩, _, rfl⟩⟩
  have hluca : Search.Hits (Text.trim (Text.lower name)) luca := by decide +kernel
  have hanna : Search.Hits (Text.trim (Text.lower name)) anna := by decide +kernel
  have hhits : [luca, anna].filter (fun other => Search.Hits (Text.trim (Text.lower name)) other) =
      [luca, anna] := by
    rw [List.filter_eq_self, List.forall_mem_cons, List.forall_mem_singleton]
    exact ⟨decide_eq_true hluca, decide_eq_true hanna⟩
  rw [hscope, hhits] at hlists
  exact ⟨hfound, (hlists hsearchable).2 ()⟩

end FlowDesk
