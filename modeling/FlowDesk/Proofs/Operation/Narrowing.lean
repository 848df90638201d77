/-
# What narrows a search

A search lists clients of one advisor, and two arguments make the list shorter.  A limit
ends it early, and archived clients are left out unless they are asked for.

Neither changes what is found.  The limit is applied to what the search has found, and
archived clients are left out before anything is compared (`Book.clientsOf_false`), which
comes to the same as leaving them out of the list.  So all lists for a query are parts of
one list, the longest, which has the records of the book in their order
(`search_narrows`).

The empty query is no exception.  It is not compared with emails and hits nobody, and still
the search for it fails where a name is no text (`Search.Comparable`).
-/

import FlowDesk.Proofs.Operation.Searching

namespace FlowDesk

open Calendar

/-! ## Archived clients -/

namespace Book

variable {book : Book} {caller : Value}

/-- The clients that are not archived are all clients without the archived ones. -/
theorem clientsOf_false :
    book.clientsOf caller false =
      (book.clientsOf caller true).filter fun client => !client.isArchived.truthy := by
  simp only [clientsOf, List.filter_filter]
  refine List.filter_congr fun client _ => ?_
  simp [Bool.and_comm]

/-- The clients of an advisor stand in the order of the book. -/
theorem clientsOf_sublist (withArchived : Bool) :
    (book.clientsOf caller withArchived).Sublist book.clients :=
  List.filter_sublist

/-- The clients of an advisor are that advisor's. -/
theorem same_of_mem_clientsOf {withArchived : Bool} {client : Client}
    (hmem : client ∈ book.clientsOf caller withArchived) : client.advisor.same caller = true :=
  (Bool.and_eq_true_iff.1 (List.mem_filter.1 hmem).2).1

end Book

namespace Search

variable {book : Book} {caller : Value}

/-! ## The longest lists -/

/-- All clients of a caller that a query hits, in the order of the book. -/
def hitsOf (book : Book) (caller : Value) (query : String) (withArchived : Bool) : List Client :=
  (book.clientsOf caller withArchived).filter fun client =>
    Hits (Text.trim (Text.lower query)) client

/-- A query can be compared with all clients of a caller that are looked at. -/
def ComparesAll (book : Book) (caller : Value) (query : String) (withArchived : Bool) : Prop :=
  ∀ client ∈ book.clientsOf caller withArchived, Comparable (Text.trim (Text.lower query)) client

/-- What is hit without the archived clients is what is hit with them, the archived ones
left out. -/
theorem hitsOf_false (query : String) :
    hitsOf book caller query false =
      (hitsOf book caller query true).filter fun client => !client.isArchived.truthy := by
  rw [hitsOf, hitsOf, Book.clientsOf_false, List.filter_comm]

/-- Whoever looks at the archived clients as well looks at the others. -/
theorem ComparesAll.withoutArchived {query : String} (hall : ComparesAll book caller query true) :
    ComparesAll book caller query false := by
  intro client hclient
  rw [Book.clientsOf_false] at hclient
  exact hall client (List.mem_of_mem_filter hclient)

/-- A search whose query can be compared with all clients lists those that it hits, as many
as its limit allows. -/
theorem ComparesAll.run_eq {query : String} {withArchived : Bool}
    (hall : ComparesAll book caller query withArchived) (limit : Int) :
    run book ⟨query, limit, withArchived⟩ caller =
      .ok (listing ((hitsOf book caller query withArchived).take limit.toNat)) := by
  obtain ⟨listed, hfound⟩ := exists_found_iff_comparable.2 hall
  rw [run_of_found ⟨query, limit, withArchived⟩ hfound, found_eq hfound, hitsOf]

/-- A search whose query cannot be compared with some client fails, whatever its limit. -/
theorem exists_fault_of_not_comparesAll {query : String} {withArchived : Bool}
    (hsome : ¬ ComparesAll book caller query withArchived) :
    ∃ fault, ∀ limit, run book ⟨query, limit, withArchived⟩ caller = .error fault := by
  cases hfound : found (Text.trim (Text.lower query)) (book.clientsOf caller withArchived) with
  | ok listed => exact absurd (exists_found_iff_comparable.1 ⟨listed, hfound⟩) hsome
  | error fault => exact ⟨fault, fun limit => run_of_fault ⟨query, limit, withArchived⟩ hfound⟩

end Search

/-- **The limit and the archive narrow a search independently.**  Let the arguments of a
search be written down in some way for each limit, with archived clients and without them.
Whether the search fails does not depend on its limit: it does exactly if the query cannot
be compared with some client that is looked at.  Otherwise it lists and counts the first of
the clients that the query hits, as many as the limit allows: all of them for a limit that
is not below the number of records, and none for a negative one.  These clients are the
caller's, and they are records of the book in its order, each of them once.  Those that are
hit without the archived clients are those that are hit with them, the archived ones left
out; and if the longer list can be had, then so can the shorter one. -/
theorem search_narrows {σ : Type} (around : Surroundings σ) (caller : Value) (query : String)
    {given : Bool → Int → Value}
    (hread : ∀ withArchived limit,
      Search.read (given withArchived limit) = .valid ⟨query, limit, withArchived⟩) :
    let all := Search.hitsOf around.book caller query
    let ComparesAll := Search.ComparesAll around.book caller query
    let Answers (withArchived : Bool) (limit : Int) (answer : Answer) : Prop := ∀ state,
      around.operations.handler ⟨"search_clients", given withArchived limit, caller⟩ state =
        (.now answer, state)
    (∀ withArchived,
      (ComparesAll withArchived → ∀ limit,
        Answers withArchived limit (Search.listing ((all withArchived).take limit.toNat))) ∧
      (¬ ComparesAll withArchived → ∃ fault, ∀ limit,
        Answers withArchived limit (.fault fault)) ∧
      (∀ limit : Int, around.book.clients.length ≤ limit →
        (all withArchived).take limit.toNat = all withArchived) ∧
      (all withArchived).Sublist around.book.clients ∧
      ∀ client ∈ all withArchived, client.advisor.same caller = true) ∧
    (all false = (all true).filter fun client => !client.isArchived.truthy) ∧
    (ComparesAll true → ComparesAll false) := by
  intro all ComparesAll Answers
  have hcall : ∀ withArchived limit state,
      around.operations.handler ⟨"search_clients", given withArchived limit, caller⟩ state =
        (.now (.ofExcept (Search.run around.book ⟨query, limit, withArchived⟩ caller)), state) :=
    fun withArchived limit state =>
      around.operations.handler_of_read (.searchClients around.book) rfl rfl
        (hread withArchived limit) caller state
  refine ⟨fun withArchived => ⟨fun hall limit state => ?_, fun hsome => ?_,
    fun limit hlimit => Search.take_filter_clientsOf hlimit withArchived _, ?_,
    fun client hclient => ?_⟩, Search.hitsOf_false query, Search.ComparesAll.withoutArchived⟩
  · rw [hcall, hall.run_eq]
    rfl
  · obtain ⟨fault, hfault⟩ := Search.exists_fault_of_not_comparesAll hsome
    refine ⟨fault, fun limit state => ?_⟩
    rw [hcall, hfault]
    rfl
  · exact List.filter_sublist.trans (Book.clientsOf_sublist withArchived)
  · exact Book.same_of_mem_clientsOf (List.mem_of_mem_filter hclient)

/-- Of three clients that a query hits, one by the email and two by the name, the second one
is archived.  It counts against a limit only when it is asked for; a namesake among another
advisor's clients never does, and a negative limit lists nobody. -/
theorem search_narrows_beside_archived :
    let known (id advisor : Int) (first last email : String) (archived : Bool) : Client :=
      ⟨.int id, .int advisor, .text first, .text last, .text email, .text "", .bool archived,
        .bool false, .text "", .text "", .list []⟩
    let mario := known 1 7 "Mario" "Verdi" "info@de-rossi.it" false
    let other := known 2 8 "Anna" "De Rossi" "" false
    let anna := known 3 7 "Anna" "De Rossi" "" true
    let luca := known 4 7 "Luca" "Rossini" "" false
    let book : Book := ⟨[mario, other, anna, luca], []⟩
    let clock : Moment := ⟨⟨63871372800000000, by decide, by decide⟩, .region .rome, false⟩
    let fetch : News.Fetcher Unit := fun _ state => (.unreachable, state)
    let around : Surroundings Unit := ⟨book, .rome, clock, "", fetch⟩
    let given (withArchived : Bool) (limit : Int) : Value := .object
      [("query", .text " Rossi"), ("limit", .int limit), ("include_archived", .bool withArchived)]
    let answer (withArchived : Bool) (limit : Int) :=
      (around.operations.handler ⟨"search_clients", given withArchived limit, .int 7⟩ ()).1
    answer true 4 = .now (Search.listing [mario, anna, luca]) ∧
      answer false 4 = .now (Search.listing [mario, luca]) ∧
      answer true 2 = .now (Search.listing [mario, anna]) ∧
      answer false 2 = .now (Search.listing [mario, luca]) ∧
      answer true (-1) = .now (Search.listing []) := by
  intro known mario other anna luca book clock fetch around given answer
  have hread : ∀ withArchived limit,
      Search.read (given withArchived limit) = .valid ⟨" Rossi", limit, withArchived⟩ :=
    fun _ _ => rfl
  obtain ⟨hanswers, hactive, hfewer⟩ := search_narrows around (.int 7) " Rossi" hread
  have hwanted : Text.trim (Text.lower " Rossi") = "rossi" := by decide +kernel
  have hscope : around.book.clientsOf (.int 7) true = [mario, anna, luca] := rfl
  have hcompares : Search.ComparesAll around.book (.int 7) " Rossi" true := by
    rw [Search.ComparesAll, hscope, List.forall_mem_cons, List.forall_mem_cons,
      List.forall_mem_singleton]
    exact ⟨⟨⟨_, rfl⟩, fun _ => ⟨_, rfl⟩⟩, ⟨⟨_, rfl⟩, fun _ => ⟨_, rfl⟩⟩,
      ⟨⟨_, rfl⟩, fun _ => ⟨_, rfl⟩⟩⟩
  have hhits : Search.hitsOf around.book (.int 7) " Rossi" true = [mario, anna, luca] := by
    have hmario : Search.Hits "rossi" mario := by decide +kernel
    have hanna : Search.Hits "rossi" anna := by decide +kernel
    have hluca : Search.Hits "rossi" luca := by decide +kernel
    rw [Search.hitsOf, hwanted, hscope, List.filter_eq_self, List.forall_mem_cons,
      List.forall_mem_cons, List.forall_mem_singleton]
    exact ⟨decide_eq_true hmario, decide_eq_true hanna, decide_eq_true hluca⟩
  have hhitsActive : Search.hitsOf around.book (.int 7) " Rossi" false = [mario, luca] := by
    rw [hactive, hhits]
    rfl
  have hlists := fun limit => congrArg Prod.fst ((hanswers true).1 hcompares limit ())
  have hlistsActive := fun limit =>
    congrArg Prod.fst ((hanswers false).1 (hfewer hcompares) limit ())
  rw [hhits] at hlists
  rw [hhitsActive] at hlistsActive
  exact ⟨hlists 4, hlistsActive 4, hlists 2, hlistsActive 2, hlists (-1)⟩

end FlowDesk
