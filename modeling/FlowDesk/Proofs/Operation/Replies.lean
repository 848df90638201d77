/-
# How replies of the news service are answered

A reply fails when there is no usable response in it (`News.Fetched.Fails`); it offers
articles when its body says what they are, or says nothing of them
(`News.Fetched.Offers`); and it breaks when the connection does, when the body is nested too
deeply to be read, and when what the body calls its articles cannot stand for any
(`News.Fetched.Breaks`).  There is no other reply (`News.Fetched.fails_or_offers_or_breaks`).

A reply that fails is answered with a failure, and one that offers articles with the first
of them, in order and in one shape; a reply that breaks is met with a fault
(`news_answers`).
-/

import FlowDesk.Bundled.Regions
import FlowDesk.Proofs.Operation.Promises

namespace FlowDesk

/-- A number that is read within bounds lies within them. -/
theorem Checked.bounds_of_wholeWithin {least greatest n : Int} {v : Value}
    (hvalid : wholeWithin least greatest v = .valid n) : least ≤ n ∧ n ≤ greatest := by
  obtain ⟨given, -, hbounds⟩ := andThen_eq_valid.1 hvalid
  split at hbounds
  · cases hbounds
  · split at hbounds
    · cases hbounds
    · cases hbounds
      omega

namespace News

/-- One article may be asked for at least, and fifty at most. -/
theorem bounds_of_read {args : Value} {count : Int} (hread : read args = .valid count) :
    1 ≤ count ∧ count ≤ 50 := by
  unfold read at hread
  split at hread
  · rcases Checked.optional_eq_valid.1 hread with ⟨v, -, hvalid⟩ | ⟨-, rfl⟩
    · exact Checked.bounds_of_wholeWithin hvalid
    · decide
  · cases hread

/-! ## Articles -/

/-- The articles that data lists for somebody who asks for some of them: the first of a
list, if they are objects, and none of an empty text. -/
inductive Lists (count : Nat) : Value → List Fields → Prop where
  | list {vs : List Value} {items : List Fields} (hfirst : vs.take count = items.map .object) :
    Lists count (.list vs) items
  | blank : Lists count (.text "") []

/-- Data that cannot stand for articles: a list that has something else among the first of
its items, another text, and whatever is neither list nor text. -/
def Unusable (count : Nat) : Value → Prop
  | .list vs => ∃ v ∈ vs.take count, ∀ fields, v ≠ .object fields
  | .text s => s ≠ ""
  | _ => True

/-- The articles that a body offers: none if it is no object, or says nothing of articles,
and otherwise those that it lists. -/
inductive Offers (count : Nat) : Value → List Fields → Prop where
  | other {body : Value} (hother : ∀ fields, body ≠ .object fields) : Offers count body []
  | silent {fields : Fields} (hnone : fields.at? "articles" = none) :
    Offers count (.object fields) []
  | listed {fields : Fields} {given : Value} {items : List Fields}
    (hgiven : fields.at? "articles" = some given) (hlists : Lists count given items) :
    Offers count (.object fields) items

/-- A body that cannot be used: what it calls its articles cannot stand for any. -/
def Spoils (count : Nat) (body : Value) : Prop :=
  ∃ (fields : Fields) (given : Value), body = .object fields ∧
    fields.at? "articles" = some given ∧ Unusable count given

/-- Some data is objects, or something else is among it. -/
theorem objects_or_other (vs : List Value) :
    (∃ items : List Fields, vs = items.map .object) ∨
      ∃ v ∈ vs, ∀ fields, v ≠ .object fields := by
  induction vs with
  | nil => exact .inl ⟨[], rfl⟩
  | cons v rest ih =>
    by_cases hobject : ∃ fields, v = .object fields
    · obtain ⟨fields, rfl⟩ := hobject
      rcases ih with ⟨items, rfl⟩ | ⟨other, hmem, hother⟩
      · exact .inl ⟨fields :: items, rfl⟩
      · exact .inr ⟨other, List.mem_cons_of_mem _ hmem, hother⟩
    · exact .inr ⟨v, List.mem_cons_self, not_exists.1 hobject⟩

/-- A body offers articles, or cannot be used. -/
theorem offers_or_spoils (count : Nat) (body : Value) :
    (∃ items, Offers count body items) ∨ Spoils count body := by
  by_cases hobject : ∃ fields, body = .object fields
  · obtain ⟨fields, rfl⟩ := hobject
    cases hgiven : Table.at? fields "articles" with
    | none => exact .inl ⟨[], .silent hgiven⟩
    | some given =>
      have hspoils (hunusable : Unusable count given) : Spoils count (.object fields) :=
        ⟨fields, given, rfl, hgiven, hunusable⟩
      cases given with
      | list vs =>
        rcases objects_or_other (vs.take count) with ⟨items, hitems⟩ | hother
        · exact .inl ⟨items, .listed hgiven (.list hitems)⟩
        · exact .inr (hspoils hother)
      | text s =>
        by_cases hblank : s = ""
        · subst hblank
          exact .inl ⟨[], .listed hgiven .blank⟩
        · exact .inr (hspoils hblank)
      | _ => exact .inr (hspoils trivial)
  · exact .inl ⟨[], .other (not_exists.1 hobject)⟩

/-! ## Digests -/

/-- An answer reports some articles, and no more than were asked for: each of them in the
desk's own shape, in order, their number, and a line for each. -/
def Reports (count : Int) (items : List Fields) (answer : Answer) : Prop :=
  ∃ news, List.Forall₂ (fun item entry => normalize (.object item) = .ok entry) items news ∧
    (news.length : Int) ≤ count ∧
    answer = .success
      [ ("news", .list (news.map .object)),
        ("count", .int news.length),
        ("headlines", .text ("\n".intercalate (news.map headline))) ]

/-- Objects are brought to one shape. -/
theorem exists_normalized (items : List Fields) :
    ∃ news, (items.map Value.object).mapM normalize = .ok news ∧
      List.Forall₂ (fun item entry => normalize (.object item) = .ok entry) items news := by
  obtain ⟨news, hnews⟩ : ∃ news, (items.map Value.object).mapM normalize = .ok news := by
    refine exists_mapM_eq_ok fun v hmem => ?_
    obtain ⟨item, -, rfl⟩ := List.mem_map.1 hmem
    exact ⟨_, rfl⟩
  exact ⟨news, hnews, List.forall₂_map_left_iff.1 (mapM_eq_ok_iff.1 hnews)⟩

/-- Only objects are brought to that shape. -/
theorem object_of_normalize {v : Value} {entry : Fields} (hentry : normalize v = .ok entry) :
    ∃ fields, v = .object fields := by
  unfold normalize at hentry
  split at hentry
  · exact ⟨_, rfl⟩
  · cases hentry

/-- The articles that a body offers are its first ones, and no more than were asked for. -/
theorem firstParts_of_offers {count : Nat} {body : Value} {items : List Fields}
    (hoffers : Offers count body items) :
    firstParts count (articles body) = .ok (items.map .object) ∧ items.length ≤ count := by
  cases hoffers with
  | other hother =>
    have hnone : articles body = .list [] := by
      unfold articles
      split
      · next fields => exact absurd rfl (hother fields)
      · rfl
    rw [hnone, firstParts, List.take_nil]
    exact ⟨rfl, Nat.zero_le _⟩
  | silent hnone =>
    rw [articles, hnone, Option.getD_none, firstParts, List.take_nil]
    exact ⟨rfl, Nat.zero_le _⟩
  | listed hgiven hlists =>
    rw [articles, hgiven, Option.getD_some]
    cases hlists with
    | list hfirst =>
      have hlength := List.length_take_le count ‹List Value›
      rw [hfirst, List.length_map] at hlength
      rw [firstParts, hfirst]
      exact ⟨rfl, hlength⟩
    | blank =>
      simp [firstParts]

/-- The articles that a body offers are reported. -/
theorem digest_of_offers {count : Nat} {body : Value} {items : List Fields}
    (hoffers : Offers count body items) :
    ∃ answer, digest count body = .ok answer ∧ Reports count items answer := by
  obtain ⟨hfirst, hlength⟩ := firstParts_of_offers hoffers
  obtain ⟨news, hnews, hshapes⟩ := exists_normalized items
  have hcount : (news.length : Int) ≤ count := by
    rw [← hshapes.length_eq]
    exact Int.ofNat_le.2 hlength
  refine ⟨_, ?_, news, hshapes, hcount, rfl⟩
  simp only [digest, hfirst, hnews, bind, Except.bind]
  rfl

/-- A body that cannot be used is met with a fault. -/
theorem digest_of_spoils {count : Nat} (hcount : 0 < count) {body : Value}
    (hspoils : Spoils count body) : ∃ fault, digest count body = .error fault := by
  obtain ⟨fields, given, rfl, hgiven, hunusable⟩ := hspoils
  have harticles : articles (.object fields) = given := by
    rw [articles, hgiven, Option.getD_some]
  cases hfirst : firstParts count given with
  | error fault =>
    refine ⟨fault, ?_⟩
    simp only [digest, harticles, hfirst, bind, Except.bind]
  | ok chosen =>
    obtain ⟨v, hmem, hother⟩ : ∃ v ∈ chosen, ∀ fields, v ≠ .object fields := by
      cases given with
      | list vs =>
        cases hfirst
        exact hunusable
      | text s =>
        cases hfirst
        obtain ⟨c, rest, hchars⟩ := List.exists_cons_of_ne_nil
          (show s.toList ≠ [] from fun hnil => hunusable (String.toList_eq_nil_iff.1 hnil))
        obtain ⟨fewer, rfl⟩ := Nat.exists_eq_succ_of_ne_zero (Nat.ne_of_gt hcount)
        exact ⟨.text (String.singleton c), by simp [hchars], nofun⟩
      | object _ => cases hfirst
      | _ => cases hfirst
    cases hnews : chosen.mapM normalize with
    | error fault =>
      refine ⟨fault, ?_⟩
      simp only [digest, harticles, hfirst, hnews, bind, Except.bind]
    | ok news =>
      obtain ⟨fields, hobject⟩ := forall_of_mapM hnews (fun _ _ => object_of_normalize) v hmem
      exact absurd hobject (hother fields)

/-! ## Replies -/

namespace Fetched

/-- A response is taken for one when it comes from an address that leads somewhere by
itself, with a status of success. -/
def IsTaken (address : Address) (status : Int) : Prop :=
  address.isAbsolute = true ∧ 200 ≤ status ∧ status < 300

/-- A reply without a usable response: the service cannot be reached, is late, or makes
itself not understood; or its response is not taken, or has a body that is no JSON. -/
def Fails (address : Address) : Fetched → Prop
  | .unreachable | .late | .garbled => True
  | .broken _ _ => False
  | .response status body =>
    IsTaken address status → ∃ error, body = .error error ∧ IsShallow error

/-- A reply offers articles when its response is taken and its body offers them. -/
def Offers (address : Address) (count : Nat) (fetched : Fetched) (items : List Fields) : Prop :=
  ∃ status body, fetched = .response status (.ok body) ∧ IsTaken address status ∧
    News.Offers count body items

/-- A reply breaks with its connection, and with a response that is taken when the body is
nested too deeply or cannot be used. -/
def Breaks (address : Address) (count : Nat) : Fetched → Prop
  | .broken _ _ => True
  | .response status (.ok body) => IsTaken address status ∧ Spoils count body
  | .response status (.error error) => IsTaken address status ∧ ¬ IsShallow error
  | _ => False

/-- Every reply fails, offers articles or breaks. -/
theorem fails_or_offers_or_breaks (address : Address) (count : Nat) (fetched : Fetched) :
    fetched.Fails address ∨ (∃ items, fetched.Offers address count items) ∨
      fetched.Breaks address count := by
  cases fetched with
  | unreachable => exact .inl trivial
  | late => exact .inl trivial
  | garbled => exact .inl trivial
  | broken label message => exact .inr (.inr trivial)
  | response status body =>
    by_cases htaken : IsTaken address status
    · cases body with
      | ok body =>
        rcases offers_or_spoils count body with ⟨items, hitems⟩ | hspoils
        · exact .inr (.inl ⟨items, status, body, rfl, htaken, hitems⟩)
        · exact .inr (.inr ⟨htaken, hspoils⟩)
      | error error =>
        by_cases hshallow : IsShallow error
        · exact .inl fun _ => ⟨error, rfl, hshallow⟩
        · exact .inr (.inr ⟨htaken, hshallow⟩)
    · exact .inl fun hown => absurd hown htaken

end Fetched

/-- What a reply is answered with: a failure, a report of the articles that it offers, or
a fault. -/
structure Answered (address : Address) (count : Int) (fetched : Fetched) (answer : Answer) :
    Prop where
  failure : fetched.Fails address → ∃ error, answer = .failure error []
  report : ∀ items, fetched.Offers address count.toNat items → Reports count items answer
  fault : fetched.Breaks address count.toNat → ∃ fault, answer = .fault fault

/-- A response that is taken is answered with a digest of its body. -/
theorem answer_readable {address : Address} {status : Int} (htaken : Fetched.IsTaken address status)
    (count : Int) (body : Value) :
    answer address count (.response status (.ok body)) = .ofExcept (digest count.toNat body) := by
  obtain ⟨habsolute, hleast, hgreatest⟩ := htaken
  have hstatus : ¬ (status < 200 ∨ 300 ≤ status) := by omega
  simp only [answer, answerTo, if_pos habsolute, if_neg hstatus]

/-- A body that is no JSON is a failure, whatever the response is. -/
theorem answer_shallow (address : Address) (count status : Int) {error : Json.ReadError}
    (hshallow : IsShallow error) :
    ∃ message, answer address count (.response status (.error error)) = .failure message [] := by
  unfold answer answerTo
  dsimp only
  split
  · split
    · exact ⟨_, rfl⟩
    · cases error with
      | malformed => exact ⟨_, rfl⟩
      | longNumber digits => exact ⟨_, rfl⟩
      | deepList => exact hshallow.elim
      | deepObject => exact hshallow.elim
  · exact ⟨_, rfl⟩

/-- A response that is not taken is a failure, whatever its body. -/
theorem answer_of_not_taken {address : Address} {status : Int}
    (htaken : ¬ Fetched.IsTaken address status) (count : Int)
    (body : Except Json.ReadError Value) :
    ∃ error, answer address count (.response status body) = .failure error [] := by
  unfold answer
  dsimp only
  split
  · next habsolute =>
    have hstatus : status < 200 ∨ 300 ≤ status := by
      by_contra hother
      exact htaken ⟨habsolute, by omega, by omega⟩
    exact ⟨_, if_pos hstatus⟩
  · exact ⟨_, rfl⟩

/-- Every reply is answered so. -/
theorem answered (address : Address) {count : Int} (hcount : 0 < count) (fetched : Fetched) :
    Answered address count fetched (answer address count fetched) := by
  cases fetched with
  | unreachable => exact ⟨fun _ => ⟨_, rfl⟩, nofun, nofun⟩
  | late => exact ⟨fun _ => ⟨_, rfl⟩, nofun, nofun⟩
  | garbled => exact ⟨fun _ => ⟨_, rfl⟩, nofun, nofun⟩
  | broken label message => exact ⟨nofun, nofun, fun _ => ⟨_, rfl⟩⟩
  | response status body =>
    by_cases htaken : Fetched.IsTaken address status
    · cases body with
      | ok body =>
        rw [answer_readable htaken]
        refine ⟨fun hfails => ?_, fun items hitems => ?_, fun hbreaks => ?_⟩
        · obtain ⟨_, hbody, -⟩ := hfails htaken
          cases hbody
        · obtain ⟨_, _, hresponse, -, hoffers⟩ := hitems
          cases hresponse
          obtain ⟨answer, hanswer, hnews, hshapes, hlength, hreport⟩ := digest_of_offers hoffers
          rw [hanswer]
          exact ⟨hnews, hshapes, by omega, hreport⟩
        · obtain ⟨fault, hfault⟩ := digest_of_spoils (by omega) hbreaks.2
          exact ⟨fault, by rw [hfault]; rfl⟩
      | error error =>
        refine ⟨fun hfails => ?_, nofun, fun hbreaks => ?_⟩
        · obtain ⟨_, hbody, hshallow⟩ := hfails htaken
          cases hbody
          exact answer_shallow address count status hshallow
        · exact ⟨_, answer_deep htaken.1 count htaken.2.1 htaken.2.2 hbreaks.2⟩
    · refine ⟨fun _ => answer_of_not_taken htaken count body, ?_, ?_⟩
      · rintro items ⟨_, _, hresponse, hown, -⟩
        cases hresponse
        exact absurd hown htaken
      · intro hbreaks
        cases body with
        | ok body => exact absurd hbreaks.1 htaken
        | error error => exact absurd hbreaks.1 htaken

end News

/-- **The news service is answered, whatever it replies, unless a reply breaks.**  Between
one and fifty articles may be asked for.  A reply that fails is answered with a failure, and
one that offers articles with a report of them: the first ones in order, each in the desk's
own shape, no more than were asked for.  A reply that breaks is met with a fault, and there
is no other reply. -/
theorem news_answers {σ : Type} (around : Surroundings σ) {args : Value} {count : Int}
    (hread : News.read args = .valid count) {address : Address}
    (haddress : News.address around.newsAddress count = .ok address) (caller : Value) (state : σ) :
    let reply := around.fetch address.text state
    ∃ answer,
      around.operations.handler ⟨"get_financial_news", args, caller⟩ state =
        (.now answer, reply.2) ∧
      1 ≤ count ∧ count ≤ 50 ∧ News.Answered address count reply.1 answer ∧
      (reply.1.Fails address ∨ (∃ items, reply.1.Offers address count.toNat items) ∨
        reply.1.Breaks address count.toNat) := by
  have hbounds := News.bounds_of_read hread
  have hfind : around.operations.find? "get_financial_news" =
      some (.getFinancialNews around.newsAddress around.fetch) := rfl
  refine ⟨News.answer address count (around.fetch address.text state).1, ?_, hbounds.1, hbounds.2,
    News.answered address (by omega) _, News.Fetched.fails_or_offers_or_breaks _ _ _⟩
  simp only [Operations.handler, hfind, Operation.getFinancialNews, hread, Checked.map, haddress]

/-- Two articles are asked for and three things come, the last of which is no article: the
two are reported, in their order. -/
theorem news_answers_before_other_data :
    let first : Fields := [("title", .text "Rates"), ("source", .object [("name", .text "Wire")])]
    let second : Fields := [("title", .text "Bonds")]
    let body : Value := .object [("articles", .list [.object first, .object second, .null])]
    let clock : Calendar.Moment := ⟨⟨63871372800000000, by decide, by decide⟩, .constant 0, false⟩
    let fetch : News.Fetcher Nat := fun _ asked => (.response 200 (.ok body), asked + 1)
    let around : Surroundings Nat := ⟨.empty, .rome, clock, "http://localhost:9100", fetch⟩
    ∃ news : List Fields,
      news.map (·.at? "title") = [some (.text "Rates"), some (.text "Bonds")] ∧
      around.operations.handler
          ⟨"get_financial_news", .object [("max_results", .int 2)], .int 1⟩ 0 =
        (.now (.success [ ("news", .list (news.map .object)), ("count", .int 2),
          ("headlines", .text "- Rates (Wire)\n- Bonds") ]), 1) := by
  intro first second body clock fetch around
  have hread : News.read (.object [("max_results", .int 2)]) = .valid 2 := rfl
  have habsolute : (News.address "http://localhost:9100" 2).toOption.any Address.isAbsolute := by
    decide +kernel
  cases haddress : News.address "http://localhost:9100" 2 with
  | error error =>
    rw [haddress] at habsolute
    cases habsolute
  | ok address =>
    rw [haddress] at habsolute
    obtain ⟨answer, hanswer, -, -, hanswered, -⟩ :=
      news_answers around hread haddress (.int 1) 0
    have hoffers : News.Fetched.Offers address 2 (.response 200 (.ok body)) [first, second] :=
      ⟨200, body, rfl, ⟨habsolute, by decide, by decide⟩, .listed rfl (.list rfl)⟩
    obtain ⟨news, hshapes, -, rfl⟩ := hanswered.report _ hoffers
    obtain ⟨entry, rest, hentry, hrest, rfl⟩ := List.forall₂_cons_left_iff.1 hshapes
    obtain ⟨other, none, hother, hnone, rfl⟩ := List.forall₂_cons_left_iff.1 hrest
    cases hnone
    cases hentry
    cases hother
    exact ⟨_, rfl, hanswer⟩

end FlowDesk
