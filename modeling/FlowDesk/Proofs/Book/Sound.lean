/-
# Books of sound records

The fields of a record may hold anything; looking a client up and adding up a
client's assets then meets accidents.  A client whose texts are texts and whose
assets have values that count as numbers is sound (`Client.IsSound`).  In a book
of sound clients every lookup comes to an answer, and what it finds is in the
book (`Book.findClient_ok`); and the profile of a sound client is complete
(`Client.IsSound.profile_ok`).
-/

import FlowDesk.Operation.Clients
import FlowDesk.Proofs.Book.Isolation
import FlowDesk.Proofs.Calendar.Within
import FlowDesk.Proofs.Run.Assignment

namespace FlowDesk

/-- A check of every item succeeds when the check of each does. -/
theorem exists_mapM_eq_ok {α β ε : Type} {check : α → Except ε β} {items : List α}
    (hcheck : ∀ item ∈ items, ∃ value, check item = .ok value) :
    ∃ values, items.mapM check = .ok values := by
  induction items with
  | nil => exact ⟨[], rfl⟩
  | cons item rest ih =>
    obtain ⟨hitem, hrest⟩ := List.forall_mem_cons.1 hcheck
    obtain ⟨value, hvalue⟩ := hitem
    obtain ⟨values, hvalues⟩ := ih hrest
    exact ⟨value :: values, by rw [List.mapM_cons, hvalue, hvalues]; rfl⟩

/-! ## Values -/

/-- A value is a text. -/
def Value.IsText (v : Value) : Prop := ∃ s, v = .text s

/-- A path to a text is filled. -/
theorem Value.IsText.fills {v found : Value} {path : List String} (htext : found.IsText)
    (hfound : v.follow? path = some found) : v.Fills path := by
  obtain ⟨s, rfl⟩ := htext
  exact fills_of_text hfound

/-- Whole numbers are equal as data when they are equal. -/
theorem Value.same_int (m n : Int) : (Value.int m).same (.int n) = decide (m = n) := by
  simp [same, sameScalar, numeric?, number?, samePlace]

/-- Texts are equal as data when they are equal. -/
theorem Value.same_text (s t : String) : (Value.text s).same (.text t) = decide (s = t) := by
  rw [same, sameScalar]
  · exact beq_eq_decide s t
  all_goals simp

/-! ## Clients -/

/-- An asset is sound: it is an object, and its value counts as a number unless
it is absent, null or empty. -/
def Value.IsSoundAsset (v : Value) : Prop :=
  ∃ fields, v = .object fields ∧ ∀ worth ∈ Table.at? fields "value", worth.truthy →
    ∃ amount, Client.amount worth = .ok amount

namespace Client

/-- A client record is sound: its names and the fields that describe the client
are texts, and its assets are a list of sound ones. -/
structure IsSound (client : Client) : Prop where
  firstName : client.firstName.IsText
  lastName : client.lastName.IsText
  email : client.email.IsText
  phone : client.phone.IsText
  riskProfile : client.riskProfile.IsText
  notes : client.notes.IsText
  assets : ∃ assets, client.assets = .list assets ∧ ∀ asset ∈ assets, asset.IsSoundAsset

variable {client : Client}

/-- A client has names to compare: the first and the last one are texts. -/
def HasNames (client : Client) : Prop := ∃ names, client.loweredNames = .ok names

/-- A sound client has names to compare. -/
theorem IsSound.hasNames (hsound : client.IsSound) : client.HasNames := by
  obtain ⟨first, hfirst⟩ := hsound.firstName
  obtain ⟨last, hlast⟩ := hsound.lastName
  exact ⟨_, by rw [loweredNames, hfirst, hlast]; rfl⟩

/-- A sound asset has a worth. -/
theorem worth_ok {asset : Value} (hsound : asset.IsSoundAsset) :
    ∃ amount, worth asset = .ok amount := by
  obtain ⟨fields, rfl, hamount⟩ := hsound
  rw [worth]
  cases hvalue : Table.at? fields "value" with
  | none => exact ⟨_, rfl⟩
  | some v =>
    by_cases htruthy : v.truthy
    · simpa only [htruthy, if_true] using hamount v hvalue htruthy
    · exact ⟨Binary64.zero false, by simp [htruthy]⟩

/-- The assets of a sound client add up. -/
theorem totalWorth_ok {assets : List Value} (hassets : ∀ asset ∈ assets, asset.IsSoundAsset) :
    ∃ total, totalWorth assets = .ok total ∧ total.isNull = false ∧ total.isWritable = true := by
  obtain ⟨worths, hworths⟩ : ∃ worths, assets.mapM worth = .ok worths :=
    exists_mapM_eq_ok fun asset hasset => worth_ok (hassets asset hasset)
  have htotal : totalWorth assets = .ok (if worths.isEmpty then .int 0
      else .real (worths.foldl Binary64.add (Binary64.zero false))) := by
    rw [totalWorth, hworths]
    simp only [bind, Except.bind, pure, Except.pure]
    split <;> rfl
  refine ⟨_, htotal, ?_⟩
  split <;> exact ⟨rfl, rfl⟩

/-- The fields of a profile that a sound client fills. -/
def described : List String :=
  [ "first_name", "last_name", "name", "email", "phone", "risk_profile", "notes",
    "total_assets" ]

/-- A sound client has a profile, with every field that describes the client
filled. -/
theorem IsSound.profile_ok (hsound : client.IsSound) :
    ∃ profile, client.profile = .ok profile ∧ ∀ name ∈ described, profile.Fills [name] := by
  obtain ⟨assets, hassets, heach⟩ := hsound.assets
  obtain ⟨total, htotal, hgiven⟩ := totalWorth_ok heach
  have hprofile : client.profile = .ok (.object
      [ ("id", client.id),
        ("first_name", client.firstName),
        ("last_name", client.lastName),
        ("name", .text client.fullName),
        ("email", client.email),
        ("phone", client.phone),
        ("is_archived", client.isArchived),
        ("is_onboarded", client.isOnboarded),
        ("risk_profile", client.riskProfile),
        ("notes", client.notes),
        ("assets", .list assets),
        ("total_assets", total) ]) := by
    rw [profile, hassets, assetItems]
    simp only [bind, Except.bind, htotal]
    rfl
  refine ⟨_, hprofile, ?_⟩
  simp only [described, List.forall_mem_cons, List.not_mem_nil, false_implies, implies_true,
    and_true]
  exact ⟨hsound.firstName.fills rfl, hsound.lastName.fills rfl, Value.fills_of_text rfl,
    hsound.email.fills rfl, hsound.phone.fills rfl, hsound.riskProfile.fills rfl,
    hsound.notes.fills rfl, ⟨_, rfl, hgiven⟩⟩

end Client

/-! ## Looking clients up -/

namespace Book

/-- The first match among clients with names is found, if there is one. -/
theorem exactMatch_ok (wanted : String) {clients : List Client}
    (hnames : ∀ client ∈ clients, client.HasNames) :
    ∃ found, exactMatch wanted clients = .ok found ∧ ∀ client ∈ found, client ∈ clients := by
  induction clients with
  | nil => exact ⟨none, rfl, by simp⟩
  | cons client rest ih =>
    obtain ⟨⟨⟨first, last⟩, hclient⟩, hrest⟩ := List.forall_mem_cons.1 hnames
    obtain ⟨found, hfound, hmem⟩ := ih hrest
    rw [exactMatch, hclient]
    simp only [bind, Except.bind]
    split
    · exact ⟨some client, rfl, by simp⟩
    · exact ⟨found, hfound, fun other hother => List.mem_cons_of_mem _ (hmem other hother)⟩

/-- Whether words name a client with names can be told. -/
theorem namedBy_ok {client : Client} (hnames : client.HasNames) (words : List String) :
    ∃ named, namedBy client words = .ok named := by
  obtain ⟨⟨first, last⟩, hnames⟩ := hnames
  induction words with
  | nil => exact ⟨false, rfl⟩
  | cons word rest ih =>
    rw [namedBy, hnames]
    simp only [bind, Except.bind]
    split
    · exact ⟨true, rfl⟩
    · exact ih

/-- The matches among clients with names are found. -/
theorem partialMatches_ok (words : List String) {clients : List Client}
    (hnames : ∀ client ∈ clients, client.HasNames) :
    ∃ found, partialMatches words clients = .ok found ∧ found ⊆ clients := by
  induction clients with
  | nil => exact ⟨[], rfl, List.Subset.refl _⟩
  | cons client rest ih =>
    obtain ⟨hclient, hrest⟩ := List.forall_mem_cons.1 hnames
    obtain ⟨named, hnamed⟩ := namedBy_ok hclient words
    obtain ⟨others, hothers, hsubset⟩ := ih hrest
    refine ⟨if named then client :: others else others, ?_, ?_⟩
    · rw [partialMatches, hnamed, hothers]
      rfl
    · split
      · exact List.cons_subset_cons client hsubset
      · exact List.subset_cons_of_subset client hsubset

/-- An advisor's clients are in the book. -/
theorem clientsOf_subset (book : Book) (advisor : Value) (withArchived : Bool) :
    book.clientsOf advisor withArchived ⊆ book.clients :=
  List.filter_subset_self _

/-- Among clients with names every lookup by name comes to an answer, and what it
finds is one of them. -/
theorem findClient_of_hasNames {book : Book} {advisor : Value} {withArchived : Bool}
    (hnames : ∀ client ∈ book.clientsOf advisor withArchived, client.HasNames) (name : String) :
    ∃ found, book.findClient advisor name withArchived = .ok found ∧
      ∀ client ∈ found, client ∈ book.clientsOf advisor withArchived := by
  unfold findClient
  dsimp only
  split
  · exact ⟨none, rfl, by simp⟩
  · obtain ⟨exactly, hexact, hexact_mem⟩ :=
      exactMatch_ok (Text.respaced (Text.lower name)) hnames
    obtain ⟨partly, hpartly, hpartly_subset⟩ :=
      partialMatches_ok (nameWords (Text.respaced (Text.lower name))) hnames
    rw [hexact]
    cases exactly with
    | some client => exact ⟨some client, rfl, hexact_mem⟩
    | none =>
      simp only [bind, Except.bind, hpartly]
      split
      · rename_i client
        exact ⟨some client, rfl, fun other hother => by
          cases hother
          exact hpartly_subset List.mem_cons_self⟩
      · exact ⟨none, rfl, by simp⟩

/-- In a book of sound clients every lookup by name comes to an answer, and what
it finds is in the book. -/
theorem findClient_ok {book : Book} (hsound : ∀ client ∈ book.clients, client.IsSound)
    (advisor : Value) (name : String) (withArchived : Bool) :
    ∃ found, book.findClient advisor name withArchived = .ok found ∧
      ∀ client ∈ found, client ∈ book.clients := by
  have hsubset := book.clientsOf_subset advisor withArchived
  have hnames : ∀ client ∈ book.clientsOf advisor withArchived, client.HasNames :=
    fun client hclient => (hsound client (hsubset hclient)).hasNames
  obtain ⟨found, hfound, hmem⟩ := findClient_of_hasNames hnames name
  exact ⟨found, hfound, fun client hclient => hsubset (hmem client hclient)⟩

end Book

namespace Extraction

/-- Whether a text names one of some sound clients can be told. -/
theorem firstNamed_ok (lowered : String) {clients : List Client}
    (hsound : ∀ client ∈ clients, client.IsSound) :
    ∃ found, firstNamed lowered clients = .ok found := by
  induction clients with
  | nil => exact ⟨none, rfl⟩
  | cons client rest ih =>
    obtain ⟨hclient, hrest⟩ := List.forall_mem_cons.1 hsound
    obtain ⟨⟨first, last⟩, hnames⟩ := hclient.hasNames
    rw [firstNamed, hnames]
    simp only [bind, Except.bind]
    split
    · exact ⟨some client, rfl⟩
    · exact ih hrest

end Extraction

/-! ## Meetings -/

/-- A meeting is sound: it starts in an ordinary zone, in neither the first nor
the last year of the calendar. -/
structure Meeting.IsSound (meeting : Meeting) : Prop where
  zone : meeting.start.zone.IsOrdinary
  inner : meeting.start.clock.IsInner

namespace Book

open Calendar

/-- The book of a seed with one meeting holds it. -/
theorem ofSeed_of_one {zone : Zone} {seed : Value} {clients : List Client} {meeting : Meeting}
    (hrecords : records zone seed = .ok ⟨clients, [meeting]⟩) :
    ofSeed zone seed = .ok ⟨clients, [meeting]⟩ := by
  have hsorted : Sorting.sort startsBefore [meeting] = [meeting] :=
    List.perm_singleton.1 (Sorting.sort_perm _ _)
  rw [ofSeed_eq, hrecords]
  exact congrArg (fun meetings => Except.ok (Book.mk clients meetings)) hsorted

/-- The starts of the meetings of a seed were read from texts. -/
theorem read?_of_ofSeed {zone : Zone} {seed : Value} {book : Book}
    (hseed : ofSeed zone seed = .ok book) :
    ∀ meeting ∈ book.meetings, ∃ s, Moment.read? zone s = some meeting.start := by
  intro meeting hmem
  rw [ofSeed_eq] at hseed
  cases hrecords : records zone seed with
  | error cause =>
    rw [hrecords] at hseed
    cases hseed
  | ok own =>
    rw [hrecords] at hseed
    cases hseed
    have hown : meeting ∈ own.meetings := (Sorting.sort_perm _ _).mem_iff.1 hmem
    obtain ⟨v, hv⟩ := meetings_of_records hrecords meeting hown
    exact read?_of_meeting hv

/-- The meetings of a seed start in ordinary zones. -/
theorem isOrdinary_of_ofSeed {region : Region} {seed : Value} {book : Book}
    (hseed : ofSeed (.region region) seed = .ok book) :
    ∀ meeting ∈ book.meetings, meeting.start.zone.IsOrdinary := by
  intro meeting hmem
  obtain ⟨s, hs⟩ := read?_of_ofSeed hseed meeting hmem
  have hregion : (Zone.region region).IsOrdinary := trivial
  exact Moment.isOrdinary_of_read? hregion hs

end Book

end FlowDesk
