/-
# Whom a name designates

A name fits a client by the whole, when it spells the client's full name in one order or
the other, or by a part, when one of its longer words is the client's first or last name.
The clients that it fits best are those it spells, or else those it fits by a part
(`Book.bestMatches`).

By a part a name designates one client or nobody.  By the whole it does not ask how many
there are: among namesakes the first record of the book is taken
(`Book.findClient_eq_chosen`).  So what a name comes to is settled by whom it designates,
and does not depend on the order of the records, exactly as long as the book has no two
namesakes that differ (`name_designates`).
-/

import FlowDesk.Proofs.Operation.Naming

namespace FlowDesk

/-! ## How a name fits a client -/

namespace Client

/-- Whether a text spells the name of a client can be decided. -/
instance decidableSpells (client : Client) (name : String) : Decidable (client.Spells name) :=
  match hnames : client.loweredNames with
  | .ok (_, _) => decidable_of_iff _ (spells_iff hnames).symm
  | .error _ => .isFalse fun hspells => by
    obtain ⟨_, _, hspelled, -⟩ := hspells
    cases hnames.symm.trans hspelled

/-- One of some words is the lowered first or last name of a client. -/
def IsNamedBy (client : Client) (words : List String) : Prop :=
  ∃ first last, client.loweredNames = .ok (first, last) ∧ (first ∈ words ∨ last ∈ words)

variable {client : Client}

/-- What words are compared with is whether one of them names the client. -/
theorem isNamedBy_iff {first last : String} (hnames : client.loweredNames = .ok (first, last))
    {words : List String} : client.IsNamedBy words ↔ first ∈ words ∨ last ∈ words := by
  constructor
  · rintro ⟨own, other, hown, hnamed⟩
    cases hnames.symm.trans hown
    exact hnamed
  · exact fun hnamed => ⟨first, last, hnames, hnamed⟩

/-- Whether one of some words names a client can be decided. -/
instance decidableIsNamedBy (client : Client) (words : List String) :
    Decidable (client.IsNamedBy words) :=
  match hnames : client.loweredNames with
  | .ok (_, _) => decidable_of_iff _ (isNamedBy_iff hnames).symm
  | .error _ => .isFalse fun hnamed => by
    obtain ⟨_, _, hspelled, -⟩ := hnamed
    cases hnames.symm.trans hspelled

/-- The empty text spells no name. -/
theorem not_spells_empty : ¬ client.Spells "" := by
  have hspace : " ".length = 1 := rfl
  rintro ⟨first, last, -, hspells | hspells⟩ <;>
  · have hlength := congrArg String.length hspells
    simp only [String.length_append, String.length_empty, hspace] at hlength
    omega

end Client

namespace Book

/-- The only item of a list. -/
def only? {α : Type} : List α → Option α
  | [item] => some item
  | _ => none

/-- The clients whose whole name is the wanted one. -/
def namesakes (wanted : String) (clients : List Client) : List Client :=
  clients.filter fun client => client.Spells wanted

/-- The clients of whom a longer word of the wanted name is a name. -/
def partlyNamed (wanted : String) (clients : List Client) : List Client :=
  clients.filter fun client => client.IsNamedBy (nameWords wanted)

/-- The clients that a wanted name fits best: those whose whole name it is, or
else those it names in part. -/
def bestMatches (wanted : String) (clients : List Client) : List Client :=
  if namesakes wanted clients = [] then partlyNamed wanted clients else namesakes wanted clients

/-- The client that is taken for a wanted name: the first namesake, or else the
only one that is named in part. -/
def chosen? (wanted : String) (clients : List Client) : Option Client :=
  (namesakes wanted clients).head?.or (only? (partlyNamed wanted clients))

/-! ## What a search comes to -/

/-- The exact match is the first namesake. -/
theorem exactMatch_eq {wanted : String} {clients : List Client} {found : Option Client}
    (hmatch : exactMatch wanted clients = .ok found) :
    found = (namesakes wanted clients).head? := by
  induction clients with
  | nil =>
    cases hmatch
    rfl
  | cons client rest ih =>
    rw [exactMatch] at hmatch
    cases hnames : client.loweredNames with
    | error fault =>
      rw [hnames] at hmatch
      cases hmatch
    | ok names =>
      obtain ⟨first, last⟩ := names
      simp only [hnames, bind, Except.bind, Bool.or_eq_true, decide_eq_true_eq] at hmatch
      split at hmatch
      · rename_i hspells
        cases hmatch
        simp [namesakes, (Client.spells_iff hnames).2 hspells]
      · rename_i hother
        rw [← Client.spells_iff hnames] at hother
        simpa [namesakes, hother] using ih hmatch

/-- The first client is the exact match when its name is the wanted one. -/
theorem exactMatch_cons {wanted : String} {client : Client} (hspells : client.Spells wanted)
    (rest : List Client) : exactMatch wanted (client :: rest) = .ok (some client) := by
  obtain ⟨first, last, hnames, hwanted⟩ := hspells
  simp [exactMatch, hnames, bind, Except.bind, pure, Except.pure, hwanted]

/-- Whether words name a client is what comparing them tells. -/
theorem namedBy_eq {client : Client} {words : List String} {named : Bool}
    (hnamed : namedBy client words = .ok named) : named = decide (client.IsNamedBy words) := by
  induction words with
  | nil =>
    cases hnamed
    simp [Client.IsNamedBy]
  | cons word rest ih =>
    rw [namedBy] at hnamed
    cases hnames : client.loweredNames with
    | error fault =>
      rw [hnames] at hnamed
      cases hnamed
    | ok names =>
      obtain ⟨first, last⟩ := names
      simp only [hnames, bind, Except.bind, Bool.or_eq_true, decide_eq_true_eq] at hnamed
      split at hnamed
      · rename_i hword
        cases hnamed
        rcases hword with rfl | rfl <;> simp [Client.isNamedBy_iff hnames]
      · rename_i hword
        rw [not_or] at hword
        rw [ih hnamed, decide_eq_decide, Client.isNamedBy_iff hnames, Client.isNamedBy_iff hnames]
        simp [Ne.symm hword.1, Ne.symm hword.2]

/-- The partial matches are the clients that some words name. -/
theorem partialMatches_eq {words : List String} {clients found : List Client}
    (hmatches : partialMatches words clients = .ok found) :
    found = clients.filter fun client => client.IsNamedBy words := by
  induction clients generalizing found with
  | nil =>
    cases hmatches
    rfl
  | cons client rest ih =>
    rw [partialMatches] at hmatches
    cases hnamed : namedBy client words with
    | error fault =>
      rw [hnamed] at hmatches
      cases hmatches
    | ok named =>
      cases hothers : partialMatches words rest with
      | error fault =>
        rw [hnamed, hothers] at hmatches
        cases hmatches
      | ok others =>
        rw [hnamed, hothers] at hmatches
        cases hmatches
        rw [List.filter_cons, ← namedBy_eq hnamed, ih hothers]

variable {book : Book} {caller : Value} {name : String} {withArchived : Bool}

/-- A search that ends finds the chosen client. -/
theorem findClient_eq_chosen {found : Option Client}
    (hfound : book.findClient caller name withArchived = .ok found) :
    found = chosen? (Text.respaced (Text.lower name)) (book.clientsOf caller withArchived) := by
  simp only [findClient] at hfound
  generalize book.clientsOf caller withArchived = clients at hfound ⊢
  split at hfound
  · rename_i hempty
    cases hfound
    have hnobody : namesakes "" clients = [] := by
      simp [namesakes, Client.not_spells_empty]
    have hnone : partlyNamed "" clients = [] := by
      have hwords : nameWords "" = [] := rfl
      simp [partlyNamed, hwords, Client.IsNamedBy]
    rw [hempty, chosen?, hnobody, hnone]
    rfl
  · generalize Text.respaced (Text.lower name) = wanted at hfound ⊢
    cases hexact : exactMatch wanted clients with
    | error fault =>
      rw [hexact] at hfound
      cases hfound
    | ok exactly =>
      have hfirst := exactMatch_eq hexact
      rw [hexact] at hfound
      cases exactly with
      | some client =>
        cases hfound
        rw [chosen?, ← hfirst]
        rfl
      | none =>
        rw [chosen?, ← hfirst, Option.none_or]
        cases hpartly : partialMatches (nameWords wanted) clients with
        | error fault =>
          simp only [bind, Except.bind, hpartly] at hfound
          cases hfound
        | ok partly =>
          simp only [bind, Except.bind, hpartly] at hfound
          rw [partlyNamed, ← partialMatches_eq hpartly]
          split at hfound
          · cases hfound
            rfl
          · rename_i hseveral
            cases hfound
            unfold only?
            split
            · exact absurd rfl (hseveral _)
            · rfl

/-- A search among clients with names ends with the chosen client. -/
theorem findClient_eq (hnames : ∀ client ∈ book.clientsOf caller withArchived, client.HasNames)
    (name : String) : book.findClient caller name withArchived =
      .ok (chosen? (Text.respaced (Text.lower name)) (book.clientsOf caller withArchived)) := by
  obtain ⟨found, hfound, -⟩ := findClient_of_hasNames hnames name
  rw [hfound, findClient_eq_chosen hfound]

/-! ## Best matches -/

variable {wanted : String} {clients : List Client}

/-- With one namesake at most, the chosen client is the only best match. -/
theorem chosen?_eq (hone : (namesakes wanted clients).length ≤ 1) :
    chosen? wanted clients = only? (bestMatches wanted clients) := by
  unfold chosen? bestMatches
  generalize namesakes wanted clients = same at hone ⊢
  match same, hone with
  | [], _ => rfl
  | [_], _ => rfl

/-- The only item of a list is all there is in it. -/
theorem eq_of_only? {α : Type} {items : List α} {item : α} (honly : only? items = some item) :
    items = [item] := by
  unfold only? at honly
  split at honly
  · cases honly
    rfl
  · cases honly

/-- Nothing is the only item of a list with more or fewer. -/
theorem only?_eq_none {α : Type} {items : List α} (hlength : items.length ≠ 1) :
    only? items = none := by
  unfold only?
  split
  · exact absurd rfl hlength
  · rfl

/-- The chosen client is the first best match, and the only one exactly when it
has no namesakes. -/
theorem bestMatches_of_chosen {client : Client} (hchosen : chosen? wanted clients = some client) :
    (bestMatches wanted clients).head? = some client ∧
      (bestMatches wanted clients = [client] ↔ (namesakes wanted clients).length ≤ 1) := by
  unfold chosen? at hchosen
  unfold bestMatches
  generalize namesakes wanted clients = same at hchosen ⊢
  cases same with
  | nil => simp [eq_of_only? hchosen]
  | cons first rest =>
    cases hchosen
    simp

/-- Lists with the same items in another order have the same only item. -/
theorem only?_of_perm {α : Type} {items others : List α} (hperm : items.Perm others) :
    only? items = only? others := by
  match items, others, hperm.length_eq with
  | [], [], _ => rfl
  | [item], [other], _ => rw [List.singleton_perm_singleton.1 hperm]
  | _ :: _ :: _, _ :: _ :: _, _ => rfl

/-- Who is chosen does not depend on the order of clients whose namesakes do not
differ. -/
theorem chosen?_of_perm {others : List Client} (hperm : clients.Perm others)
    (hsame : ∀ one ∈ namesakes wanted clients, ∀ other ∈ namesakes wanted clients, one = other) :
    chosen? wanted clients = chosen? wanted others := by
  have hnamesakes : (namesakes wanted clients).Perm (namesakes wanted others) :=
    hperm.filter _
  have hhead : (namesakes wanted clients).head? = (namesakes wanted others).head? := by
    generalize namesakes wanted clients = before at hnamesakes hsame
    generalize namesakes wanted others = after at hnamesakes
    match before, after, hnamesakes.length_eq with
    | [], [], _ => rfl
    | first :: _, other :: _, _ =>
      have hmem : other ∈ first :: _ := hnamesakes.mem_iff.2 List.mem_cons_self
      exact congrArg some (hsame first List.mem_cons_self other hmem)
  have honly : only? (partlyNamed wanted clients) = only? (partlyNamed wanted others) :=
    only?_of_perm (hperm.filter _)
  rw [chosen?, chosen?, hhead, honly]

/-! ## The order of the records -/

/-- A book holds the records of another, the clients in any order. -/
def Reorders (book other : Book) : Prop :=
  other.clients.Perm book.clients ∧ other.meetings = book.meetings

/-- A name comes to the same client in every order of the records in which the
search for it ends. -/
def ResolvesInAnyOrder (book : Book) (caller : Value) (name : String) (withArchived : Bool) :
    Prop :=
  ∀ one other found found', book.Reorders one → book.Reorders other →
    one.findClient caller name withArchived = .ok found →
    other.findClient caller name withArchived = .ok found' → found = found'

/-- The clients of an advisor are reordered with the records. -/
theorem Reorders.clientsOf {other : Book} (hreorders : book.Reorders other) (caller : Value)
    (withArchived : Bool) :
    (other.clientsOf caller withArchived).Perm (book.clientsOf caller withArchived) :=
  hreorders.1.filter _

/-- A namesake is found in an order of the records that has it first. -/
theorem exists_order_finding {client : Client}
    (hmem : client ∈ namesakes (Text.respaced (Text.lower name))
      (book.clientsOf caller withArchived)) :
    ∃ other, book.Reorders other ∧
      other.findClient caller name withArchived = .ok (some client) := by
  obtain ⟨hown, hspells⟩ := List.mem_filter.1 hmem
  rw [decide_eq_true_eq] at hspells
  obtain ⟨hclient, hscope⟩ := List.mem_filter.1 hown
  obtain ⟨before, after, hclients⟩ := List.append_of_mem hclient
  let other : Book := ⟨client :: (before ++ after), book.meetings⟩
  have hreorders : book.Reorders other :=
    ⟨by rw [hclients]; exact List.perm_middle.symm, rfl⟩
  refine ⟨other, hreorders, ?_⟩
  have hfirst : other.clientsOf caller withArchived = client :: _ :=
    List.filter_cons_of_pos hscope
  have hsome : Text.respaced (Text.lower name) ≠ "" := by
    intro hempty
    rw [hempty] at hspells
    exact Client.not_spells_empty hspells
  simp only [findClient, hfirst, if_neg hsome, bind, Except.bind, exactMatch_cons hspells]
  rfl

/-- A name comes to the same client in every order of the records exactly when no
two namesakes differ. -/
theorem resolvesInAnyOrder_iff :
    book.ResolvesInAnyOrder caller name withArchived ↔
      ∀ one ∈ namesakes (Text.respaced (Text.lower name)) (book.clientsOf caller withArchived),
        ∀ other ∈ namesakes (Text.respaced (Text.lower name)) (book.clientsOf caller withArchived),
          one = other := by
  constructor
  · intro hresolves one hone other hother
    obtain ⟨first, hfirst, hfound⟩ := exists_order_finding hone
    obtain ⟨second, hsecond, hfound'⟩ := exists_order_finding hother
    exact Option.some.inj (hresolves first second _ _ hfirst hsecond hfound hfound')
  · intro hsame first second found found' hfirst hsecond hfound hfound'
    rw [findClient_eq_chosen hfound, findClient_eq_chosen hfound',
      ← chosen?_of_perm (hfirst.clientsOf caller withArchived).symm hsame,
      ← chosen?_of_perm (hsecond.clientsOf caller withArchived).symm hsame]

end Book

/-! ## Profiles by name -/

namespace Profile

/-- Looking a profile up by a name that finds nobody fails. -/
theorem run_of_nobody {book : Book} {args : Args} {caller : Value}
    (hnobody : book.findClient caller args.clientName true = .ok none) :
    ∃ error, run book args caller = .ok (.failure error []) := by
  unfold run
  split
  · exact ⟨_, rfl⟩
  · simp only [bind, Except.bind, hnobody]
    exact ⟨_, rfl⟩

end Profile

/-- A call for the profile of a client whose name finds nobody fails, whatever else
it is given. -/
theorem Surroundings.profile_of_nobody {σ : Type} (around : Surroundings σ) {caller : Value}
    {name : String} (hnobody : around.book.findClient caller name true = .ok none)
    {given : Fields} (hname : given.at? "client_name" = some (.text name)) (state : σ) :
    ∃ error, around.operations.handler ⟨"get_client_context", .object given, caller⟩ state =
      (.now (.failure error []), state) := by
  cases hread : Profile.read (.object given) with
  | valid args =>
    obtain ⟨own, query, hown, -, hargs⟩ := Checked.seq_eq_valid.1 hread
    obtain ⟨wanted, hwanted, rfl⟩ := Checked.map_eq_valid.1 hown
    obtain ⟨v, hv, htext⟩ := Checked.required_eq_valid.1 hwanted
    cases hname.symm.trans hv
    cases htext
    subst hargs
    obtain ⟨error, hrun⟩ : ∃ error, Profile.run around.book ⟨name, query⟩ caller =
        .ok (.failure error []) :=
      Profile.run_of_nobody hnobody
    have hcall := around.operations.handler_of_read (.getClientContext around.book) rfl rfl hread
      caller state
    rw [hrun] at hcall
    exact ⟨error, hcall⟩
  | invalid problems =>
    exact ⟨_, around.operations.handler_of_unread (.getClientContext around.book) rfl rfl hread
      caller state⟩

/-- **Whom a name designates.**  Take the clients of a caller, the archived ones
only when asked for.  A client that a name resolves to is the first of those that the
name fits best, and the only one of these exactly when it has no namesakes.  When all
these clients have names to compare and at most one has the wanted name as a whole, the
name resolves to the only best match or to nobody, and in the latter case every call for
the profile of that name fails.  And a name resolves to the same client in every order of
the records exactly when no two namesakes differ. -/
theorem name_designates {σ : Type} (around : Surroundings σ) (caller : Value) (name : String)
    (withArchived : Bool) :
    let wanted := Text.respaced (Text.lower name)
    let scope := around.book.clientsOf caller withArchived
    let best := Book.bestMatches wanted scope
    let namesakes := Book.namesakes wanted scope
    (∀ client, around.book.findClient caller name withArchived = .ok (some client) →
      best.head? = some client ∧ (best = [client] ↔ namesakes.length ≤ 1)) ∧
    ((∀ client ∈ scope, client.HasNames) → namesakes.length ≤ 1 →
      around.book.findClient caller name withArchived = .ok (Book.only? best) ∧
      (withArchived = true → best.length ≠ 1 →
        ∀ given : Fields, given.at? "client_name" = some (.text name) → ∀ state, ∃ error,
          around.operations.handler ⟨"get_client_context", .object given, caller⟩ state =
            (.now (.failure error []), state))) ∧
    (around.book.ResolvesInAnyOrder caller name withArchived ↔
      ∀ one ∈ namesakes, ∀ other ∈ namesakes, one = other) := by
  intro wanted scope best namesakes
  refine ⟨fun client hfound => ?_, fun hnames hone => ?_, Book.resolvesInAnyOrder_iff⟩
  · exact Book.bestMatches_of_chosen (Book.findClient_eq_chosen hfound).symm
  · have hfound : around.book.findClient caller name withArchived = .ok (Book.only? best) := by
      rw [Book.findClient_eq hnames, Book.chosen?_eq hone]
    refine ⟨hfound, fun hall hbest given hname state => ?_⟩
    have hnobody : Book.only? best = none := Book.only?_eq_none hbest
    rw [hnobody, hall] at hfound
    exact around.profile_of_nobody hfound hname state

/-- Two clients with one surname: it designates neither, and no profile is given.  Of two
clients with one name the first is found, and in another order the other. -/
theorem name_designates_shared_names :
    let known (id : Int) (first last : String) : Client := ⟨.int id, .int 7, .text first,
      .text last, .text "", .text "", .bool false, .bool false, .text "", .text "", .list []⟩
    let anna := known 3 "Anna" "Bianchi"
    let twin := known 4 "Bianchi" "Anna"
    let book : Book := ⟨[known 1 "Mara" "Rossi", known 2 "Luca" "Rossi", anna, twin], []⟩
    let clock : Calendar.Moment :=
      ⟨⟨63871372800000000, by decide, by decide⟩, .region .rome, false⟩
    let fetch : News.Fetcher Unit := fun _ state => (.unreachable, state)
    let around : Surroundings Unit := ⟨book, .rome, clock, "", fetch⟩
    let given : Fields := [("client_name", .text "signor  ROSSI")]
    (∃ error, around.operations.handler ⟨"get_client_context", .object given, .int 7⟩ () =
      (.now (.failure error []), ())) ∧
    book.findClient (.int 7) "anna bianchi" true = .ok (some anna) ∧
    Book.bestMatches "anna bianchi" (book.clientsOf (.int 7) true) ≠ [anna] ∧
    ¬ book.ResolvesInAnyOrder (.int 7) "anna bianchi" true := by
  intro known anna twin book clock fetch around given
  have hown : book.clientsOf (.int 7) true = book.clients := rfl
  have hnames : ∀ client ∈ book.clientsOf (.int 7) true, client.HasNames := by
    rw [hown]
    simp only [book, List.forall_mem_cons, List.not_mem_nil, false_implies, implies_true, and_true]
    exact ⟨⟨_, rfl⟩, ⟨_, rfl⟩, ⟨_, rfl⟩, ⟨_, rfl⟩⟩
  have hsurname : Text.respaced (Text.lower "signor  ROSSI") = "signor rossi" := by decide +kernel
  have hwanted : Text.respaced (Text.lower "anna bianchi") = "anna bianchi" := by decide +kernel
  have hnone : Book.namesakes "signor rossi" book.clients = [] := by decide +kernel
  have hboth : Book.namesakes "anna bianchi" book.clients = [anna, twin] := rfl
  have hpartly : Book.bestMatches "signor rossi" book.clients =
    [known 1 "Mara" "Rossi", known 2 "Luca" "Rossi"] := rfl
  have hfound : book.findClient (.int 7) "anna bianchi" true = .ok (some anna) := rfl
  obtain ⟨-, hsurnames, -⟩ := name_designates around (.int 7) "signor  ROSSI" true
  obtain ⟨hfirst, -, hreorders⟩ := name_designates around (.int 7) "anna bianchi" true
  rw [hsurname, hown, hnone, hpartly] at hsurnames
  rw [hwanted, hown, hboth] at hfirst hreorders
  refine ⟨?_, hfound, ?_, ?_⟩
  · exact (hsurnames hnames (by simp)).2 rfl (by simp) given rfl ()
  · exact fun hbest => absurd ((hfirst anna hfound).2.1 hbest) (by simp)
  · intro hresolves
    have hsame := hreorders.1 hresolves anna (by simp) twin (by simp)
    cases congrArg Client.id hsame

end FlowDesk
