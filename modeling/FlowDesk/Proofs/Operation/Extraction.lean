/-
# Which name is taken from a message

The names of the caller's clients are looked for in the lowered message, the longest first.
The sort that puts the longest first is stable, so the client that is found has the longest
name of all that occur, and no client before it in the book has one as long
(`Extraction.firstNamed_sorted`).  Only if none of them occurs, the first run of names in
the message is taken (`Extraction.Finds`).

Both are looked for after the white space of the message is normalised, so the answer
depends only on its words (`extracted_name_is_longest`).
-/

import FlowDesk.Proofs.Book.Order
import FlowDesk.Proofs.Operation.Naming
import FlowDesk.Proofs.Text.NameRun

namespace FlowDesk

open Calendar

/-! ## Clients that occur -/

namespace Client

/-- The lowered name of a client occurs in a text, in one order or the other. -/
def OccursIn (client : Client) (text : String) : Prop :=
  ∃ first last, client.firstName = .text first ∧ client.lastName = .text last ∧
    ((Text.lower (first ++ " " ++ last)).toList <:+: text.toList ∨
      (Text.lower (last ++ " " ++ first)).toList <:+: text.toList)

/-- A client has the longest name among those of some clients that occur in a text, and no
client before it has one as long. -/
structure IsLongestIn (client : Client) (clients : List Client) (text : String) : Prop where
  occurs : client.OccursIn text
  longest : ∃ before after, clients = before ++ client :: after ∧
    (∀ other ∈ before, other.OccursIn text → other.fullName.length < client.fullName.length) ∧
    ∀ other ∈ after, other.OccursIn text → other.fullName.length ≤ client.fullName.length

variable {client : Client}

/-- The names that are compared are those of texts. -/
theorem HasNames.texts (hnames : client.HasNames) :
    ∃ first last, client.firstName = .text first ∧ client.lastName = .text last := by
  obtain ⟨names, hlowered⟩ := hnames
  rw [loweredNames] at hlowered
  cases hfirst : client.firstName with
  | text first =>
    cases hlast : client.lastName with
    | text last => exact ⟨first, last, rfl, rfl⟩
    | _ =>
      rw [hfirst, hlast] at hlowered
      cases hlowered
  | _ =>
    rw [hfirst] at hlowered
    cases hlowered

/-- The client with the longest name is one of the clients. -/
theorem IsLongestIn.mem {clients : List Client} {text : String}
    (hlongest : client.IsLongestIn clients text) : client ∈ clients := by
  obtain ⟨before, after, rfl, -⟩ := hlongest.longest
  exact List.mem_append_right _ List.mem_cons_self

/-- No client that occurs has a name longer than the longest one. -/
theorem IsLongestIn.length_le {clients : List Client} {text : String}
    (hlongest : client.IsLongestIn clients text) {other : Client} (hmem : other ∈ clients)
    (hoccurs : other.OccursIn text) : other.fullName.length ≤ client.fullName.length := by
  obtain ⟨before, after, rfl, hbefore, hafter⟩ := hlongest.longest
  rcases List.mem_append.1 hmem with hmem | hmem
  · exact Nat.le_of_lt (hbefore other hmem hoccurs)
  · rcases List.mem_cons.1 hmem with rfl | hmem
    · exact Nat.le_refl _
    · exact hafter other hmem hoccurs

/-- What is looked for in a text are the lowered names of a client, one after the other. -/
theorem occursIn_iff {first last : String} (hfirst : client.firstName = .text first)
    (hlast : client.lastName = .text last) {text : String} :
    client.OccursIn text ↔
      Text.contains text (Text.lower first ++ " " ++ Text.lower last) = true ∨
        Text.contains text (Text.lower last ++ " " ++ Text.lower first) = true := by
  rw [Text.contains_iff, Text.contains_iff, ← Text.lower_append_space, ← Text.lower_append_space]
  constructor
  · rintro ⟨own, other, hown, hother, hoccurs⟩
    cases hfirst.symm.trans hown
    cases hlast.symm.trans hother
    exact hoccurs
  · exact fun hoccurs => ⟨first, last, hfirst, hlast, hoccurs⟩

end Client

/-! ## What an extraction comes to -/

namespace Extraction

/-- What an answer says about a message: the client with the longest name of those that
occur in it, or else its first run of names, or else that there is none. -/
structure Finds (book : Book) (caller : Value) (message : String) (answer : Answer) : Prop where
  known : ∀ client ∈ book.clientsOf caller true,
    client.OccursIn (Text.lower (Text.respaced message)) →
      ∃ longest : Client,
        longest.IsLongestIn (book.clientsOf caller true) (Text.lower (Text.respaced message)) ∧
        answer = .success [("client_name", .text longest.fullName), ("client_id", longest.id)]
  named : (∀ client ∈ book.clientsOf caller true,
      ¬ client.OccursIn (Text.lower (Text.respaced message))) →
    ∀ skipped front last rest,
      Text.NameRun.RunIn none (Text.respaced message).toList skipped front last rest →
        ∃ skipped front last rest,
          Text.NameRun.IsFirst none (Text.respaced message).toList skipped front last rest ∧
          answer = .success
            [("client_name", .text (String.ofList (Text.NameRun.runText front last)))]
  unnamed : (∀ client ∈ book.clientsOf caller true,
      ¬ client.OccursIn (Text.lower (Text.respaced message))) →
    (∀ skipped front last rest,
      ¬ Text.NameRun.RunIn none (Text.respaced message).toList skipped front last rest) →
        answer = .failure "no client name found in message" []

variable {clients : List Client}

/-- The first of some clients that occurs in a text is found, if there is any. -/
theorem firstNamed_cases (lowered : String) (hnames : ∀ client ∈ clients, client.HasNames) :
    (∃ front client rest, clients = front ++ client :: rest ∧ client.OccursIn lowered ∧
      (∀ other ∈ front, ¬ other.OccursIn lowered) ∧
      firstNamed lowered clients = .ok (some client)) ∨
    (∀ client ∈ clients, ¬ client.OccursIn lowered) ∧ firstNamed lowered clients = .ok none := by
  induction clients with
  | nil => exact .inr ⟨by simp, rfl⟩
  | cons client rest ih =>
    obtain ⟨hclient, hrest⟩ := List.forall_mem_cons.1 hnames
    obtain ⟨first, last, hfirst, hlast⟩ := hclient.texts
    have hlowered : client.loweredNames = .ok (Text.lower first, Text.lower last) := by
      rw [Client.loweredNames, hfirst, hlast]
      rfl
    rw [firstNamed, hlowered]
    simp only [bind, Except.bind, Bool.or_eq_true]
    by_cases hown : client.OccursIn lowered
    · rw [if_pos ((Client.occursIn_iff hfirst hlast).1 hown)]
      exact .inl ⟨[], client, rest, rfl, hown, by simp, rfl⟩
    · rw [if_neg fun hoccurs => hown ((Client.occursIn_iff hfirst hlast).2 hoccurs)]
      rcases ih hrest with ⟨front, other, after, rfl, hother, hfront, hfound⟩ | ⟨hnone, hfound⟩
      · exact .inl ⟨client :: front, other, after, rfl, hother,
          List.forall_mem_cons.2 ⟨hown, hfront⟩, hfound⟩
      · exact .inr ⟨List.forall_mem_cons.2 ⟨hown, hnone⟩, hfound⟩

/-- Of the clients that occur in a text, the one with the longest name is found. -/
theorem firstNamed_sorted (lowered : String) (hnames : ∀ client ∈ clients, client.HasNames) :
    (∃ client, client.IsLongestIn clients lowered ∧
      firstNamed lowered (clients.mergeSort notShorter) = .ok (some client)) ∨
    (∀ client ∈ clients, ¬ client.OccursIn lowered) ∧
      firstNamed lowered (clients.mergeSort notShorter) = .ok none := by
  have hkey : ∀ one other, notShorter one other = true ↔
      -(one.fullName.length : Int) ≤ -(other.fullName.length : Int) := by
    intro one other
    rw [notShorter, decide_eq_true_eq]
    omega
  obtain ⟨hordered, hstably⟩ := Sorting.mergeSort_stable hkey hnames
  rcases firstNamed_cases lowered hordered.all with
    ⟨front, client, rest, hsplit, hoccurs, hfront, hfound⟩ | ⟨hnone, hfound⟩
  · obtain ⟨before, after, hclients, hbefore, hafter⟩ :=
      hordered.first hstably hsplit hoccurs hfront
    refine .inl ⟨client, ⟨hoccurs, before, after, hclients, fun other hmem hother => ?_,
      fun other hmem hother => ?_⟩, hfound⟩
    · have hless := hbefore other hmem hother
      omega
    · have hle := hafter other hmem hother
      omega
  · exact .inr ⟨fun client hmem => hnone client ((hstably.mem_iff client).2 hmem), hfound⟩

/-- An extraction finds what there is in a message. -/
theorem run_finds {book : Book} {caller : Value}
    (hnames : ∀ client ∈ book.clientsOf caller true, client.HasNames) (message : String) :
    ∃ answer, run book message caller = .ok answer ∧ Finds book caller message answer := by
  have hrun := Text.NameRun.first?_respaced message
  rcases firstNamed_sorted (Text.lower (Text.respaced message)) hnames with
    ⟨client, hlongest, hfound⟩ | ⟨hnone, hfound⟩
  · refine ⟨_, by rw [run, hfound]; rfl, fun _ _ _ => ⟨client, hlongest, rfl⟩, ?_, ?_⟩
    · exact fun hnone => absurd hlongest.occurs (hnone client hlongest.mem)
    · exact fun hnone => absurd hlongest.occurs (hnone client hlongest.mem)
  · cases hname : Text.NameRun.first? (Text.respaced message) with
    | some name =>
      rw [hname] at hrun
      obtain ⟨skipped, front, last, rest, htext, hfirst⟩ := hrun
      refine ⟨.success [("client_name", .text name)], ?_,
        fun client hmem hoccurs => absurd hoccurs (hnone client hmem),
        fun _ _ _ _ _ _ => ⟨skipped, front, last, rest, hfirst, ?_⟩,
        fun _ hnoRun => absurd hfirst.run (hnoRun _ _ _ _)⟩
      · simp only [run, hfound, bind, Except.bind, hname]
        rfl
      · rw [← htext, String.ofList_toList]
    | none =>
      rw [hname] at hrun
      refine ⟨.failure "no client name found in message" [], ?_,
        fun client hmem hoccurs => absurd hoccurs (hnone client hmem),
        fun _ skipped front last rest hsome => absurd hsome (hrun _ _ _ _), fun _ _ => rfl⟩
      simp only [run, hfound, bind, Except.bind, hname]
      rfl

/-- Messages with the same words are alike for an extraction. -/
theorem run_of_words (book : Book) (caller : Value) {message other : String}
    (hwords : Text.words other = Text.words message) :
    run book other caller = run book message caller := by
  have hsame : Text.respaced other = Text.respaced message := by
    rw [Text.respaced, hwords, Text.respaced]
  simp only [run, hsame]

end Extraction

/-- **The longest name is taken from a message.**  Let the names of the caller's clients be
texts.  For every message there is one answer: it gives the client with the longest name of
those that occur in the message, archived ones included, and of equally long ones the first
in the book.  If no client occurs, it gives the first run of names in the message and no
client, and it is a failure exactly if there is no such run.  Every call with a message of
these words comes to this answer and leaves the state as it is. -/
theorem extracted_name_is_longest {σ : Type} (around : Surroundings σ) {caller : Value}
    (hnames : ∀ client ∈ around.book.clientsOf caller true, client.HasNames) (message : String) :
    ∃ answer, Extraction.Finds around.book caller message answer ∧
      ∀ (given : Fields) (other : String), given.at? "message" = some (.text other) →
        Text.words other = Text.words message → ∀ state,
          around.operations.handler ⟨"extract_client_name", .object given, caller⟩ state =
            (.now answer, state) := by
  obtain ⟨answer, hrun, hfinds⟩ := Extraction.run_finds hnames message
  refine ⟨answer, hfinds, fun given other hmessage hwords state => ?_⟩
  have hread : Extraction.read (.object given) = .valid other :=
    Checked.required_eq_valid.2 ⟨_, hmessage, rfl⟩
  have hcall := around.operations.handler_of_read (.extractClientName around.book) rfl rfl hread
    caller state
  rw [Extraction.run_of_words around.book caller hwords, hrun] at hcall
  exact hcall

/-- The name of one client ends with that of another, who comes first in the book and is not
archived, and the message has more white space than needed. -/
theorem extracted_name_is_longest_within_another :
    let known (id : Int) (first : String) (archived : Bool) : Client := ⟨.int id, .int 7,
      .text first, .text "Ferri", .text "", .text "", .bool archived, .bool false, .text "",
      .text "", .list []⟩
    let book : Book := ⟨[known 1 "Luca" false, known 2 "Gianluca" true], []⟩
    let clock : Moment := ⟨⟨63871372800000000, by decide, by decide⟩, .region .rome, false⟩
    let fetch : News.Fetcher Unit := fun _ state => (.unreachable, state)
    let around : Surroundings Unit := ⟨book, .rome, clock, "", fetch⟩
    let given : Fields := [("message", .text "  GIANLUCA\nferri called")]
    Text.words "  GIANLUCA\nferri called" = Text.words "GIANLUCA ferri called" ∧
      (∀ client ∈ book.clientsOf (.int 7) true, client.HasNames) ∧
      around.operations.handler ⟨"extract_client_name", .object given, .int 7⟩ () =
        (.now (.success [("client_name", .text "Gianluca Ferri"), ("client_id", .int 2)]), ()) := by
  intro known book clock fetch around given
  let luca := known 1 "Luca" false
  let gianluca := known 2 "Gianluca" true
  have hown : book.clientsOf (.int 7) true = [luca, gianluca] := rfl
  have hnames : ∀ client ∈ book.clientsOf (.int 7) true, client.HasNames := by
    rw [hown, List.forall_mem_cons, List.forall_mem_singleton]
    exact ⟨⟨_, rfl⟩, ⟨_, rfl⟩⟩
  have hwords : Text.words "  GIANLUCA\nferri called" = Text.words "GIANLUCA ferri called" := by
    decide +kernel
  have hlowered : Text.lower (Text.respaced "GIANLUCA ferri called") = "gianluca ferri called" := by
    decide +kernel
  have hluca : luca.OccursIn "gianluca ferri called" :=
    (Client.occursIn_iff rfl rfl).2 (by decide +kernel)
  have hgianluca : gianluca.OccursIn "gianluca ferri called" :=
    (Client.occursIn_iff rfl rfl).2 (by decide +kernel)
  obtain ⟨answer, hfinds, hcall⟩ :=
    extracted_name_is_longest around hnames "GIANLUCA ferri called"
  obtain ⟨longest, hlongest, rfl⟩ :=
    hfinds.known luca (hown ▸ List.mem_cons_self) (hlowered.symm ▸ hluca)
  have hlength := hlongest.length_le (hown ▸ List.mem_cons_of_mem _ List.mem_cons_self)
    (hlowered.symm ▸ hgianluca)
  obtain rfl : longest = gianluca := by
    rcases List.mem_pair.1 (hown ▸ hlongest.mem) with rfl | rfl
    · exact absurd hlength (by decide +kernel)
    · rfl
  have hname : gianluca.fullName = "Gianluca Ferri" := by decide +kernel
  refine ⟨hwords, hnames, ?_⟩
  rw [hcall given _ rfl hwords (), hname]

end FlowDesk
