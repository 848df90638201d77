/-
# A meeting with a client given by id or by name

The client of a new meeting is given by an id or by a name.  The id is looked for among
all clients of the caller, the name among those that are not archived; the one search
stops at an equal id, the other at a spelling of the name (`Book.client?_of_distinct`,
`Book.findClient_of_unique`).

Which of the two is given makes no difference to the dialog (`draft_by_id_or_name`) for a
client that both searches can find: one that is not archived and whose id counts as
given.  An archived client has a dialog by id and none by name
(`draft_of_archived_client`).
-/

import FlowDesk.Proofs.Operation.Namesakes

namespace FlowDesk

open Calendar

/-! ## The client -/

namespace Book

variable {book : Book} {caller : Value} {client : Client}

/-- In a book of distinct ids a caller's client is the one with its id. -/
theorem client?_of_distinct
    (hids : book.clients.Pairwise fun one other => one.id.same other.id = false)
    {withArchived : Bool} (hown : client ∈ book.clientsOf caller withArchived) {id : Value}
    (hid : client.id = id) (hsame : id.same id = true) : book.client? caller id = some client := by
  obtain ⟨hmem, hscope⟩ := List.mem_filter.1 hown
  rw [Bool.and_eq_true] at hscope
  obtain ⟨before, after, hclients⟩ := List.append_of_mem hmem
  rw [hclients, List.pairwise_append] at hids
  refine List.find?_eq_some_iff_append.2
    ⟨by simp [hid, hsame, hscope.1], before, after, hclients, fun other hother => ?_⟩
  have hapart := hids.2.2 other hother client List.mem_cons_self
  simp [← hid, hapart]

/-- A client that is the only one its full name spells is found by it. -/
theorem findClient_of_unique {withArchived : Bool}
    (hothers : ∀ other ∈ book.clientsOf caller withArchived, other.HasNames)
    (hown : client ∈ book.clientsOf caller withArchived) (hnames : client.HasTidyNames)
    (hunique : ∀ other ∈ book.clientsOf caller withArchived,
      other.Spells (Text.lower client.fullName) → other = client) :
    book.findClient caller client.fullName withArchived = .ok (some client) := by
  have hwanted : Text.respaced (Text.lower client.fullName) = Text.lower client.fullName :=
    hnames.fullName_tidy.lower.spaced
  rw [findClient_eq hothers, hwanted, chosen?]
  have hmem : client ∈ namesakes (Text.lower client.fullName)
      (book.clientsOf caller withArchived) :=
    List.mem_filter.2 ⟨hown, decide_eq_true hnames.spells_fullName⟩
  have hsame : ∀ other ∈ namesakes (Text.lower client.fullName)
      (book.clientsOf caller withArchived), other = client := by
    intro other hother
    obtain ⟨hscope, hspells⟩ := List.mem_filter.1 hother
    exact hunique other hscope (of_decide_eq_true hspells)
  generalize namesakes (Text.lower client.fullName) (book.clientsOf caller withArchived) = same
    at hmem hsame
  cases same with
  | nil => cases hmem
  | cons first rest => rw [hsame first List.mem_cons_self]; rfl

end Book

/-! ## The details -/

namespace Checked

variable {α β γ : Type}

/-- A change of a combined value is a change of its first part. -/
theorem map_seq (change : β → γ) (f : Checked (α → β)) (x : Checked α) :
    change <$> (f <*> x) = ((change ∘ ·) <$> f) <*> x := by
  cases f <;> cases x <;> rfl

/-- A field is read past an entry with another name. -/
theorem optional_cons {key name : String} (hother : key ≠ name) (v : Value)
    (given : Fields) (default : α) (check : Value → Checked α) :
    optional ((key, v) :: given) name default check = optional given name default check := by
  simp only [optional, Table.at?_cons, if_neg hother]

/-- An absent field has its default. -/
theorem optional_of_absent {given : Fields} {name : String} (habsent : given.at? name = none)
    (default : α) (check : Value → Checked α) :
    optional given name default check = .valid default := by
  simp only [optional, habsent]

end Checked

namespace Draft

variable {given : Fields}

/-- An id in front of the details sets the id. -/
theorem read_with_id (hfree : given.at? "client_id" = none) (id : Int) :
    read (.object (("client_id", .int id) :: given)) =
      (fun args => { args with clientId := some id }) <$> read (.object given) := by
  have hid : Checked.optional (("client_id", .int id) :: given) "client_id" none
      (Checked.nullable Checked.whole) = .valid (some id) := rfl
  simp only [read, hid, Checked.optional_of_absent hfree, Checked.map_seq]
  simp +decide only [Checked.optional_cons]
  rfl

/-- A name in front of the details, and no id, sets the name. -/
theorem read_with_name (hnoId : given.at? "client_id" = none)
    (hfree : given.at? "client_name" = none) (name : String) :
    read (.object (("client_name", .text name) :: given)) =
      (fun args => { args with clientId := none, clientName := some name }) <$>
        read (.object given) := by
  have hname : Checked.optional (("client_name", .text name) :: given) "client_name" none
      (Checked.nullable Checked.text) = .valid (some name) := rfl
  simp only [read, hname, Checked.optional_of_absent hfree, Checked.map_seq]
  simp +decide only [Checked.optional_cons, Checked.optional_of_absent hnoId]
  rfl

variable {book : Book} {region : Region} {caller : Value} {client : Client}

/-- The details come to the same dialog with the id and with the name of a client that
is found by both. -/
theorem run_by_id_or_name {id : Int} (hid : book.client? caller (.int id) = some client)
    (hgiven : id ≠ 0) {name : String}
    (hname : book.findClient caller name false = .ok (some client)) (hsome : name ≠ "")
    (args : Args) :
    run book region { args with clientId := some id } caller =
      run book region { args with clientId := none, clientName := some name } caller := by
  have hmissing : missing { args with clientId := some id } =
      missing { args with clientId := none, clientName := some name } := by
    simp [missing, hgiven, hsome]
  have hclient : Draft.client book caller { args with clientId := some id } =
      Draft.client book caller { args with clientId := none, clientName := some name } := by
    simp only [Draft.client, hid, if_neg hsome, hname]
  simp only [run, hmissing, hclient]

/-- Complete details with a client come to a dialog, and without one to a failure. -/
theorem run_of_complete {args : Args} {found : Option Client}
    (hfound : Draft.client book caller args = .ok found) (hcomplete : missing args = [])
    (hduration : 0 < args.duration) {start shown : Moment}
    (hstart : Moment.readLocal? region args.dateTime = some start)
    (hshown : start.localIn region = .ok shown) :
    ∃ dialog, run book region args caller = .ok
      (if found.isSome then .success dialog else .failure "client not found" []) := by
  simp only [run, hcomplete, ne_eq, not_true_eq_false, if_false, Int.not_le.2 hduration, hstart,
    hfound, bind, Except.bind]
  cases found with
  | none => exact ⟨[], rfl⟩
  | some client =>
    simp only [hshown]
    exact ⟨_, rfl⟩

end Draft

/-- **A client given by id or by name has the same dialog.**  Let the ids in a book be
distinct, and let the clients of a caller that are not archived have names to compare.
Take one of these clients with tidy names and with a whole number other than zero for an
id, and let its full name spell no other of them.  Then a call for the dialog with its id
and one with its full name come to the same, whatever else they are given: the same
dialog, or the same failure. -/
theorem draft_by_id_or_name {σ : Type} (around : Surroundings σ) {caller : Value} {client : Client}
    (hids : around.book.clients.Pairwise fun one other => one.id.same other.id = false)
    (hothers : ∀ other ∈ around.book.clientsOf caller false, other.HasNames)
    (hown : client ∈ around.book.clientsOf caller false)
    {id : Int} (hid : client.id = .int id) (hgiven : id ≠ 0) (hnames : client.HasTidyNames)
    (hunique : ∀ other ∈ around.book.clientsOf caller false,
      other.Spells (Text.lower client.fullName) → other = client)
    {given : Fields} (hnoId : given.at? "client_id" = none)
    (hnoName : given.at? "client_name" = none) (state : σ) :
    around.operations.handler
        ⟨"prepare_meeting_data", .object (("client_id", .int id) :: given), caller⟩ state =
      around.operations.handler
        ⟨"prepare_meeting_data",
          .object (("client_name", .text client.fullName) :: given), caller⟩ state := by
  have hbyId := Book.client?_of_distinct hids hown hid (by simp [Value.same_int])
  have hbyName := Book.findClient_of_unique hothers hown hnames hunique
  have hsome : client.fullName ≠ "" := by
    intro hempty
    have hnonblank := hnames.fullName_tidy.nonblank
    rw [hempty] at hnonblank
    exact hnonblank rfl
  have hreadId := Draft.read_with_id hnoId id
  have hreadName := Draft.read_with_name hnoId hnoName client.fullName
  let operation : Operation σ := .prepareMeetingData around.book around.region
  cases hread : Draft.read (.object given) with
  | valid args =>
    rw [hread] at hreadId hreadName
    have hcallId := around.operations.handler_of_read operation rfl rfl hreadId caller state
    have hcallName := around.operations.handler_of_read operation rfl rfl hreadName caller state
    rw [Draft.run_by_id_or_name hbyId hgiven hbyName hsome] at hcallId
    exact hcallId.trans hcallName.symm
  | invalid problems =>
    rw [hread] at hreadId hreadName
    have hcallId := around.operations.handler_of_unread operation rfl rfl hreadId caller state
    have hcallName := around.operations.handler_of_unread operation rfl rfl hreadName caller state
    exact hcallId.trans hcallName.symm

/-- The name of a client finds it beside an archived client of the same name, as its id
does. -/
theorem draft_beside_archived_namesake :
    let known (id : Int) (archived : Bool) : Client := ⟨.int id, .int 1, .text "Luca",
      .text "Ferri", .text "", .text "", .bool archived, .bool false, .text "", .text "", .list []⟩
    let clock : Moment := ⟨⟨63871372800000000, by decide, by decide⟩, .region .rome, false⟩
    let fetch : News.Fetcher Unit := fun _ state => (.unreachable, state)
    let around : Surroundings Unit := ⟨⟨[known 5 true, known 4 false], []⟩, .rome, clock, "", fetch⟩
    let given : Fields := [("subject", .text "Review"), ("date_time", .text "2026-03-20T10:30")]
    let draft (entry : String × Value) := around.operations.handler
      ⟨"prepare_meeting_data", .object (entry :: given), .int 1⟩ ()
    draft ("client_id", .int 4) = draft ("client_name", .text (known 4 false).fullName) := by
  intro known clock fetch around given draft
  have hown : around.book.clientsOf (.int 1) false = [known 4 false] := rfl
  have hmem : known 4 false ∈ around.book.clientsOf (.int 1) false := by
    rw [hown]
    exact List.mem_singleton_self _
  have honly : ∀ other ∈ around.book.clientsOf (.int 1) false, other = known 4 false := by
    rw [hown]
    exact fun other hother => List.mem_singleton.1 hother
  have hothers : ∀ other ∈ around.book.clientsOf (.int 1) false, other.HasNames := by
    intro other hother
    rw [honly other hother]
    exact ⟨_, rfl⟩
  have hnames : (known 4 false).HasTidyNames := ⟨"Luca", "Ferri", rfl, rfl,
    ⟨by decide +kernel, by decide +kernel⟩, by decide +kernel, by decide +kernel⟩
  exact draft_by_id_or_name around (by decide) hothers hmem rfl (by decide) hnames
    (fun other hother _ => honly other hother) rfl rfl ()

/-- An archived client has a dialog by its id and none by its name. -/
theorem draft_of_archived_client :
    let luca : Client := ⟨.int 4, .int 1, .text "Luca", .text "Ferri", .text "", .text "",
      .bool true, .bool false, .text "", .text "", .list []⟩
    let clock : Moment := ⟨⟨63871372800000000, by decide, by decide⟩, .region .rome, false⟩
    let fetch : News.Fetcher Unit := fun _ state => (.unreachable, state)
    let around : Surroundings Unit := ⟨⟨[luca], []⟩, .rome, clock, "", fetch⟩
    let given : Fields := [("subject", .text "Review"), ("date_time", .text "2026-03-20T10:30")]
    let draft (entry : String × Value) := (around.operations.handler
      ⟨"prepare_meeting_data", .object (entry :: given), .int 1⟩ ()).1
    (around.book.clients.Pairwise fun one other => one.id.same other.id = false) ∧
    around.book.clientsOf (.int 1) true = [luca] ∧ luca.HasTidyNames ∧
    (∃ dialog, draft ("client_id", .int 4) = .now (.success dialog)) ∧
    draft ("client_name", .text luca.fullName) = .now (.failure "client not found" []) := by
  intro luca clock fetch around given draft
  have hnames : luca.HasTidyNames := ⟨"Luca", "Ferri", rfl, rfl,
    ⟨by decide +kernel, by decide +kernel⟩, by decide +kernel, by decide +kernel⟩
  let start : Moment := ⟨⟨63909599400000000, by decide, by decide⟩, .region .rome, false⟩
  have hstart : Moment.readLocal? .rome "2026-03-20T10:30" = some start := by decide +kernel
  let byId : Draft.Args := ⟨some 4, none, "Review", "2026-03-20T10:30", 60, "", ""⟩
  let byName : Draft.Args := ⟨none, some luca.fullName, "Review", "2026-03-20T10:30", 60, "", ""⟩
  have hfound : Draft.client around.book (.int 1) byId = .ok (some luca) := rfl
  have hnobody : Draft.client around.book (.int 1) byName = .ok none := by
    have hfull : luca.fullName = "Luca Ferri" := by decide +kernel
    have hscope : around.book.clientsOf (.int 1) false = [] := rfl
    have hfind : around.book.findClient (.int 1) luca.fullName false = .ok none := by
      rw [Book.findClient_eq (by simp [hscope]), hscope]
      rfl
    simp only [byName, Draft.client, hfull] at hfind ⊢
    exact hfind
  have hshown : start.localIn .rome = .ok start := rfl
  obtain ⟨dialog, hbyId⟩ :=
    Draft.run_of_complete hfound (by decide +kernel) (by decide) hstart hshown
  obtain ⟨_, hbyName⟩ :=
    Draft.run_of_complete hnobody (by decide +kernel) (by decide) hstart hshown
  have hreadId : Draft.read (.object (("client_id", .int 4) :: given)) = .valid byId := rfl
  have hreadName : Draft.read (.object (("client_name", .text luca.fullName) :: given)) =
    .valid byName := rfl
  let operation : Operation Unit := .prepareMeetingData around.book .rome
  have hcallId := around.operations.handler_of_read operation rfl rfl hreadId (.int 1) ()
  have hcallName := around.operations.handler_of_read operation rfl rfl hreadName (.int 1) ()
  rw [hbyId] at hcallId
  rw [hbyName] at hcallName
  exact ⟨by decide, rfl, hnames, ⟨dialog, congrArg Prod.fst hcallId⟩, congrArg Prod.fst hcallName⟩

end FlowDesk
