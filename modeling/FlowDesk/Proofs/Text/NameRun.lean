/-
# The first run of names in a text

A name is a capital with small letters or apostrophes after it, and a run is two or three
names with a space after each but the last, which begins and ends where a word does
(`RunIn`).  Only the last name of a run may stop before its letters do: after the others
there is a space, which is no letter of a name (`startsRun_cons_iff`).  So at each place
the number of names and the end of the last one are all there is to choose, and the search
takes three names rather than two, and the last one as long as it can be (`Finds`).

The first run of a text whose words have one space between them is the leftmost of its
runs, and of those that begin there the one that comes first in this sense
(`first?_finds`); if there is none, the text has no run.
-/

import FlowDesk.Proofs.Text.Blank
import FlowDesk.Text.NameRun

namespace FlowDesk.Text

/-- Nothing is taken from the beginning of a text whose first character is not. -/
theorem takeWhile_of_head? {take : Char → Bool} {cs : List Char}
    (hfirst : ∀ c ∈ cs.head?, take c = false) : cs.takeWhile take = [] := by
  cases cs with
  | nil => rfl
  | cons c cs => exact List.takeWhile_cons_of_neg (by simp [hfirst c rfl])

/-! ## Single spaces -/

/-- Every blank of a text is a space, and none follows another. -/
def Spaced : List Char → Prop
  | [] => True
  | c :: rest =>
    (isBlank c = true → c = ' ' ∧ ∀ next ∈ rest.head?, isBlank next = false) ∧ Spaced rest

/-- What a text with single spaces ends with is one. -/
theorem Spaced.of_append {front rest : List Char} (hspaced : Spaced (front ++ rest)) :
    Spaced rest := by
  induction front with
  | nil => exact hspaced
  | cons c front ih => exact ih hspaced.2

/-- A word before a text with single spaces makes it longer. -/
theorem Spaced.word_append {word rest : List Char} (hword : ∀ c ∈ word, isBlank c = false)
    (hrest : Spaced rest) : Spaced (word ++ rest) := by
  induction word with
  | nil => exact hrest
  | cons c word ih =>
    obtain ⟨hc, hword⟩ := List.forall_mem_cons.1 hword
    refine ⟨fun hblank => ?_, ih hword⟩
    rw [hc] at hblank
    cases hblank

/-- Words with a space between them are a text with single spaces. -/
theorem spaced_intercalate {ws : List String} (hwords : ∀ w ∈ ws, IsWord w) :
    Spaced (String.intercalate " " ws).toList := by
  induction ws with
  | nil => trivial
  | cons w ws ih =>
    obtain ⟨hw, hws⟩ := List.forall_mem_cons.1 hwords
    cases ws with
    | nil =>
      rw [String.intercalate_singleton, ← List.append_nil w.toList]
      exact Spaced.word_append hw.solid trivial
    | cons v vs =>
      have hchars : (String.intercalate " " (w :: v :: vs)).toList =
          w.toList ++ ' ' :: (String.intercalate " " (v :: vs)).toList := by
        rw [String.intercalate_cons_cons, String.toList_append, String.toList_append,
          List.append_assoc]
        rfl
      rw [hchars]
      exact Spaced.word_append hw.solid ⟨fun _ => ⟨rfl, head?_intercalate hws⟩, ih hws⟩

/-- A text whose white space is normalised has single spaces. -/
theorem spaced_respaced (s : String) : Spaced (respaced s).toList :=
  spaced_intercalate fun _ => isWord_of_mem_words

namespace NameRun

/-- A space with which a text with single spaces begins is a gap. -/
theorem gap?_space {rest : List Char} (hspaced : Spaced (' ' :: rest)) :
    gap? (' ' :: rest) = some ([' '], rest) := by
  have hblank : isBlank ' ' = true := by decide
  obtain ⟨-, hnext⟩ := hspaced.1 hblank
  simp [gap?, hblank, takeWhile_of_head? hnext, dropWhile_of_head? hnext]

/-- The gap with which a text with single spaces begins is one space. -/
theorem gap?_eq_some {cs blanks rest : List Char} (hspaced : Spaced cs)
    (hgap : gap? cs = some (blanks, rest)) : blanks = [' '] ∧ cs = ' ' :: rest := by
  cases cs with
  | nil => cases hgap
  | cons c cs =>
    by_cases hblank : isBlank c = true
    · obtain ⟨rfl, -⟩ := hspaced.1 hblank
      rw [gap?_space hspaced] at hgap
      cases hgap
      exact ⟨rfl, rfl⟩
    · simp [gap?, hblank] at hgap

/-! ## Names -/

/-- A name: a capital, and one letter at least of those that may follow. -/
def IsName (word : List Char) : Prop :=
  ∃ c followers, word = c :: followers ∧ isCapital c = true ∧ followers ≠ [] ∧
    ∀ d ∈ followers, isFollower d = true

/-- A whole name is one after which no letter of it follows. -/
theorem wholeWord?_eq_some_iff {cs word rest : List Char} :
    wholeWord? cs = some (word, rest) ↔
      IsName word ∧ cs = word ++ rest ∧ ∀ c ∈ rest.head?, isFollower c = false := by
  constructor
  · intro hwhole
    unfold wholeWord? at hwhole
    split at hwhole
    · cases hwhole
    · next c tail =>
      obtain ⟨hshape, heq⟩ := Option.ite_none_right_eq_some.1 hwhole
      cases heq
      rw [Bool.and_eq_true, Bool.not_eq_true', List.isEmpty_eq_false_iff] at hshape
      refine ⟨⟨c, _, rfl, hshape.1, hshape.2,
        fun d hd => List.all_eq_true.1 List.all_takeWhile d hd⟩, ?_, ?_⟩
      · rw [List.cons_append, List.takeWhile_append_dropWhile]
      · intro d hd
        have hfirst := List.head?_dropWhile_not isFollower tail
        rw [Option.mem_def.1 hd] at hfirst
        exact hfirst
  · rintro ⟨⟨c, followers, rfl, hcapital, hsome, hfollowers⟩, rfl, hrest⟩
    have htake : (followers ++ rest).takeWhile isFollower = followers := by
      rw [List.takeWhile_append_of_pos hfollowers, takeWhile_of_head? hrest, List.append_nil]
    have hdrop : (followers ++ rest).dropWhile isFollower = rest := by
      rw [List.dropWhile_append_of_pos hfollowers, dropWhile_of_head? hrest]
    simp [wholeWord?, htake, hdrop, hcapital, hsome]

/-- The text of some names, with a space after each but the last. -/
def runText : List (List Char) → List Char → List Char
  | [], last => last
  | word :: front, last => word ++ ' ' :: runText front last

/-- A text begins with some names, of which the last one ends where a word begins or
ends. -/
structure StartsRun (cs : List Char) (front : List (List Char)) (last rest : List Char) :
    Prop where
  names : ∀ word ∈ front, IsName word
  lastName : IsName last
  written : cs = runText front last ++ rest
  ends : isBoundary last.getLast? rest.head? = true

/-- The names before the last one are whole. -/
theorem startsRun_cons_iff {cs word last rest : List Char} {front : List (List Char)} :
    StartsRun cs (word :: front) last rest ↔
      ∃ more, wholeWord? cs = some (word, ' ' :: more) ∧ StartsRun more front last rest := by
  have hspace : isFollower ' ' = false := by decide
  constructor
  · rintro ⟨hnames, hlast, hwritten, hends⟩
    obtain ⟨hword, hfront⟩ := List.forall_mem_cons.1 hnames
    refine ⟨runText front last ++ rest, wholeWord?_eq_some_iff.2 ⟨hword, ?_, ?_⟩,
      hfront, hlast, rfl, hends⟩
    · rw [hwritten, runText, List.append_assoc, List.cons_append]
    · simp [hspace]
  · rintro ⟨more, hwhole, hfront, hlast, hwritten, hends⟩
    obtain ⟨hword, hcs, -⟩ := wholeWord?_eq_some_iff.1 hwhole
    refine ⟨List.forall_mem_cons.2 ⟨hword, hfront⟩, hlast, ?_, hends⟩
    rw [hcs, hwritten, runText, List.append_assoc, List.cons_append]

/-! ## The last name -/

/-- A cut is made at the last place that has a boundary. -/
theorem cutAtBoundary_eq_some {cs cut : List Char} {count : Nat}
    (hcut : cutAtBoundary cs count = some cut) :
    ∃ n, n < count ∧ cut = cs.take (n + 1) ∧ isBoundary cs[n]? cs[n + 1]? = true ∧
      ∀ m, n < m → m < count → isBoundary cs[m]? cs[m + 1]? = false := by
  induction count with
  | zero => cases hcut
  | succ count ih =>
    rw [cutAtBoundary] at hcut
    split at hcut
    · next hboundary =>
      cases hcut
      exact ⟨count, Nat.lt_succ_self _, rfl, hboundary, fun m _ _ => by omega⟩
    · next hnone =>
      obtain ⟨n, hn, hcut, hboundary, hlast⟩ := ih hcut
      refine ⟨n, Nat.lt_succ_of_lt hn, hcut, hboundary, fun m hm hcount => ?_⟩
      rcases Nat.lt_or_eq_of_le (Nat.lt_succ_iff.1 hcount) with hless | rfl
      · exact hlast m hm hless
      · exact Bool.eq_false_iff.2 hnone

/-- No cut is made where there is no boundary. -/
theorem cutAtBoundary_eq_none {cs : List Char} {count : Nat}
    (hcut : cutAtBoundary cs count = none) :
    ∀ n < count, isBoundary cs[n]? cs[n + 1]? = false := by
  induction count with
  | zero => exact fun n hn => absurd hn (Nat.not_lt_zero n)
  | succ count ih =>
    rw [cutAtBoundary] at hcut
    split at hcut
    · cases hcut
    · next hnone =>
      intro n hn
      rcases Nat.lt_or_eq_of_le (Nat.lt_succ_iff.1 hn) with hless | rfl
      · exact ih hcut n hless
      · exact Bool.eq_false_iff.2 hnone

/-- Where a name ends that has some of the letters after its capital. -/
theorem isBoundary_take (c : Char) {tail : List Char} {n : Nat} (hn : n < tail.length) :
    isBoundary (c :: tail.take (n + 1)).getLast? (tail.drop (n + 1)).head? =
      isBoundary tail[n]? tail[n + 1]? := by
  have hlength : (tail.take (n + 1)).length = n + 1 := by
    rw [List.length_take]
    omega
  rw [List.getLast?_eq_getElem?, List.length_cons, hlength, Nat.add_sub_cancel,
    List.getElem?_cons_succ, List.getElem?_take_of_lt (Nat.lt_succ_self n), List.head?_drop]

/-- A last name is a capital with some of the letters after it, up to a boundary. -/
theorem startsRun_nil_iff {c : Char} {tail word rest : List Char} :
    StartsRun (c :: tail) [] word rest ↔
      isCapital c = true ∧ ∃ n, n < (tail.takeWhile isFollower).length ∧
        word = c :: tail.take (n + 1) ∧ rest = tail.drop (n + 1) ∧
        isBoundary tail[n]? tail[n + 1]? = true := by
  have htail : (tail.takeWhile isFollower).length ≤ tail.length :=
    (List.takeWhile_sublist _).length_le
  constructor
  · rintro ⟨-, ⟨first, followers, rfl, hcapital, hsome, hfollowers⟩, hwritten, hends⟩
    rw [runText, List.cons_append, List.cons.injEq] at hwritten
    obtain ⟨rfl, rfl⟩ := hwritten
    obtain ⟨n, hlength⟩ : ∃ n, followers.length = n + 1 :=
      Nat.exists_eq_succ_of_ne_zero fun hzero => hsome (List.length_eq_zero_iff.1 hzero)
    have htake : (followers ++ rest).take (n + 1) = followers := List.take_left' hlength
    have hdrop : (followers ++ rest).drop (n + 1) = rest := List.drop_left' hlength
    have hn : n < (followers ++ rest).length := by
      rw [List.length_append]
      omega
    refine ⟨hcapital, n, ?_, by rw [htake], hdrop.symm, ?_⟩
    · rw [List.takeWhile_append_of_pos hfollowers, List.length_append]
      omega
    · rw [← isBoundary_take c hn, htake, hdrop]
      exact hends
  · rintro ⟨hcapital, n, hn, rfl, rfl, hends⟩
    have hless : n < tail.length := Nat.lt_of_lt_of_le hn htail
    have hletters : tail.take (n + 1) = (tail.takeWhile isFollower).take (n + 1) := by
      rw [← List.take_append_of_le_length (Nat.succ_le_of_lt hn), List.takeWhile_append_dropWhile]
    have hlength : (tail.take (n + 1)).length = n + 1 := by
      rw [List.length_take]
      omega
    refine ⟨by simp, ⟨c, _, rfl, hcapital, ?_, fun d hd => ?_⟩, ?_, ?_⟩
    · exact List.ne_nil_of_length_eq_add_one hlength
    · rw [hletters] at hd
      exact List.all_eq_true.1 List.all_takeWhile d (List.mem_of_mem_take hd)
    · rw [runText, List.cons_append, List.take_append_drop]
    · rw [isBoundary_take c hless]
      exact hends

/-! ## What is found at a place -/

/-- Of two runs that begin at one place the first is taken: it has more names, or the same
names before the last one, and that is no shorter. -/
def Outranks (front : List (List Char)) (last : List Char) (front' : List (List Char))
    (last' : List Char) : Prop :=
  front'.length < front.length ∨ front' = front ∧ last'.length ≤ last.length

/-- What is found of the runs with which a text begins, among those with certain numbers of
names before the last one: the one that outranks all others, if there is any. -/
def Finds (counts : Nat → Prop) (cs : List Char) : Option (List Char) → Prop
  | some run => ∃ front last rest, counts front.length ∧ run = runText front last ∧
      StartsRun cs front last rest ∧ ∀ front' last' rest', counts front'.length →
        StartsRun cs front' last' rest' → Outranks front last front' last'
  | none => ∀ front last rest, counts front.length → ¬ StartsRun cs front last rest

/-- Only the numbers count, not how they are described. -/
theorem Finds.congr {counts others : Nat → Prop} {cs : List Char} {found : Option (List Char)}
    (hfinds : Finds counts cs found) (hsame : ∀ n, counts n ↔ others n) :
    Finds others cs found := by
  obtain rfl : counts = others := funext fun n => propext (hsame n)
  exact hfinds

/-- The longest last name is found. -/
theorem finds_lastWord? (cs : List Char) : Finds (· = 0) cs (lastWord? cs) := by
  have hnone : ∀ cs, (∀ last rest, ¬ StartsRun cs [] last rest) → Finds (· = 0) cs none := by
    intro cs hall front last rest hcount
    rw [List.length_eq_zero_iff.1 hcount]
    exact hall last rest
  cases cs with
  | nil =>
    refine hnone [] fun last rest hstarts => ?_
    obtain ⟨c, followers, rfl, -⟩ := hstarts.lastName
    cases hstarts.written
  | cons c tail =>
    rw [lastWord?]
    by_cases hcapital : isCapital c = true
    · rw [if_pos hcapital]
      cases hcut : cutAtBoundary tail (tail.takeWhile isFollower).length with
      | none =>
        refine hnone _ fun last rest hstarts => ?_
        obtain ⟨-, n, hn, -, -, hends⟩ := startsRun_nil_iff.1 hstarts
        rw [cutAtBoundary_eq_none hcut n hn] at hends
        cases hends
      | some cut =>
        obtain ⟨n, hn, rfl, hends, hlast⟩ := cutAtBoundary_eq_some hcut
        refine ⟨[], c :: tail.take (n + 1), tail.drop (n + 1), rfl, rfl,
          startsRun_nil_iff.2 ⟨hcapital, n, hn, rfl, rfl, hends⟩,
          fun front' last' rest' hcount hstarts => ?_⟩
        obtain rfl := List.length_eq_zero_iff.1 hcount
        obtain ⟨-, m, hm, rfl, -, hends'⟩ := startsRun_nil_iff.1 hstarts
        have hle : m ≤ n := Nat.le_of_not_lt fun hlater => by
          rw [hlast m hlater hm] at hends'
          cases hends'
        refine .inr ⟨rfl, ?_⟩
        simp only [List.length_cons, List.length_take]
        omega
    · rw [if_neg hcapital]
      exact hnone _ fun last rest hstarts => hcapital (startsRun_nil_iff.1 hstarts).1

/-- Among runs with one name before the last one, and else without, the former are found
first. -/
theorem finds_orElse {cs : List Char} {more fewer : Option (List Char)}
    (hmore : Finds (· = 1) cs more) (hfewer : Finds (· = 0) cs fewer) :
    Finds (· ≤ 1) cs (more.orElse fun _ => fewer) := by
  cases more with
  | some run =>
    obtain ⟨front, last, rest, hcount, hrun, hstarts, hbest⟩ := hmore
    refine ⟨front, last, rest, Nat.le_of_eq hcount, hrun, hstarts,
      fun front' last' rest' hcount' hstarts' => ?_⟩
    rcases Nat.lt_or_eq_of_le hcount' with hless | heq
    · exact .inl (by omega)
    · exact hbest front' last' rest' heq hstarts'
  | none =>
    have hzero : ∀ {front' : List (List Char)} {last' rest' : List Char}, front'.length ≤ 1 →
        StartsRun cs front' last' rest' → front'.length = 0 := by
      intro front' last' rest' hcount' hstarts'
      have hother : front'.length ≠ 1 := fun heq => hmore front' last' rest' heq hstarts'
      omega
    cases fewer with
    | some run =>
      obtain ⟨front, last, rest, hcount, hrun, hstarts, hbest⟩ := hfewer
      exact ⟨front, last, rest, by omega, hrun, hstarts, fun front' last' rest' hcount' hstarts' =>
        hbest front' last' rest' (hzero hcount' hstarts') hstarts'⟩
    | none =>
      exact fun front last rest hcount hstarts =>
        hfewer front last rest (hzero hcount hstarts) hstarts

/-- A whole name, a gap, and what a search finds after it. -/
def wordThen? (search : List Char → Option (List Char)) (cs : List Char) : Option (List Char) := do
  let (word, rest) ← wholeWord? cs
  let (blanks, rest) ← gap? rest
  let others ← search rest
  return word ++ blanks ++ others

/-- In a text with single spaces a search after a whole name finds the runs with one name
more. -/
theorem finds_wordThen? {counts : Nat → Prop} {search : List Char → Option (List Char)}
    (hsearch : ∀ rest, Spaced rest → Finds counts rest (search rest)) {cs : List Char}
    (hspaced : Spaced cs) :
    Finds (fun n => ∃ m, n = m + 1 ∧ counts m) cs (wordThen? search cs) := by
  have hparts : ∀ {front : List (List Char)} {last rest : List Char},
      (∃ m, front.length = m + 1 ∧ counts m) → StartsRun cs front last rest →
        ∃ word others more, front = word :: others ∧ counts others.length ∧
          wholeWord? cs = some (word, ' ' :: more) ∧ StartsRun more others last rest := by
    rintro front last rest ⟨m, hlength, hcount⟩ hstarts
    obtain ⟨word, others, rfl⟩ := List.exists_cons_of_length_eq_add_one hlength
    obtain ⟨more, hwhole, hmore⟩ := startsRun_cons_iff.1 hstarts
    obtain rfl : others.length = m := Nat.succ.inj hlength
    exact ⟨word, others, more, rfl, hcount, hwhole, hmore⟩
  cases hwhole : wholeWord? cs with
  | none =>
    rw [wordThen?, hwhole]
    intro front last rest hcount hstarts
    obtain ⟨_, _, _, -, -, hother, -⟩ := hparts hcount hstarts
    cases hwhole.symm.trans hother
  | some whole =>
    obtain ⟨word, rest⟩ := whole
    have hrest : Spaced rest := by
      rw [(wholeWord?_eq_some_iff.1 hwhole).2.1] at hspaced
      exact hspaced.of_append
    cases hgap : gap? rest with
    | none =>
      simp only [wordThen?, hwhole, hgap, Option.bind_eq_bind, Option.bind_some, Option.bind_none]
      intro front last after hcount hstarts
      obtain ⟨_, _, more, -, -, hother, -⟩ := hparts hcount hstarts
      cases hwhole.symm.trans hother
      cases hgap.symm.trans (gap?_space hrest)
    | some gap =>
      obtain ⟨blanks, next⟩ := gap
      obtain ⟨rfl, rfl⟩ := gap?_eq_some hrest hgap
      have hfound := hsearch next hrest.2
      cases hothers : search next with
      | none =>
        rw [hothers] at hfound
        simp only [wordThen?, hwhole, hgap, hothers, Option.bind_eq_bind, Option.bind_some,
          Option.bind_none]
        intro front last after hcount hstarts
        obtain ⟨_, others, more, -, hcount', hother, hmore⟩ := hparts hcount hstarts
        cases hwhole.symm.trans hother
        exact hfound others last after hcount' hmore
      | some run =>
        rw [hothers] at hfound
        obtain ⟨front, last, after, hcount, rfl, hstarts, hbest⟩ := hfound
        simp only [wordThen?, hwhole, hgap, hothers, Option.bind_eq_bind, Option.bind_some]
        refine ⟨word :: front, last, after, ⟨_, rfl, hcount⟩, by simp [runText],
          startsRun_cons_iff.2 ⟨next, hwhole, hstarts⟩,
          fun front' last' after' hcount' hstarts' => ?_⟩
        obtain ⟨word', others, more, rfl, hothers', hother, hmore⟩ := hparts hcount' hstarts'
        cases hwhole.symm.trans hother
        rcases hbest others last' after' hothers' hmore with hless | ⟨rfl, hle⟩
        · exact .inl (Nat.succ_lt_succ hless)
        · exact .inr ⟨rfl, hle⟩

/-- The runs of two or three names with which a text with single spaces begins are
found. -/
theorem finds_startingAt? {cs : List Char} (hspaced : Spaced cs) :
    Finds (fun n => n = 1 ∨ n = 2) cs (startingAt? cs) := by
  have htwo : ∀ rest, Spaced rest → Finds (· = 1) rest (twoMore? rest) := fun rest hrest =>
    (finds_wordThen? (fun after _ => finds_lastWord? after) hrest).congr (by simp)
  refine (finds_wordThen? (fun rest hrest =>
    finds_orElse (htwo rest hrest) (finds_lastWord? rest)) hspaced).congr fun n => ?_
  constructor
  · rintro ⟨m, rfl, hcount⟩
    omega
  · rintro (rfl | rfl)
    · exact ⟨0, rfl, by decide⟩
    · exact ⟨1, rfl, by decide⟩

/-! ## Runs in a text -/

/-- A run of names stands in a text after some of its characters, where `before` is the
character before the text: two or three names that begin and end where a word does. -/
structure RunIn (before : Option Char) (text skipped : List Char) (front : List (List Char))
    (last rest : List Char) : Prop where
  count : front.length = 1 ∨ front.length = 2
  names : ∀ word ∈ front, IsName word
  lastName : IsName last
  written : text = skipped ++ (runText front last ++ rest)
  begins : isBoundary (skipped.getLast?.or before) (runText front last).head? = true
  ends : isBoundary last.getLast? rest.head? = true

/-- The first run of a text: no other begins before it, and it outranks those that begin
with it. -/
structure IsFirst (before : Option Char) (text skipped : List Char) (front : List (List Char))
    (last rest : List Char) : Prop where
  run : RunIn before text skipped front last rest
  first : ∀ skipped' front' last' rest', RunIn before text skipped' front' last' rest' →
    skipped.length < skipped'.length ∨ skipped' = skipped ∧ Outranks front last front' last'

variable {before : Option Char} {front : List (List Char)} {last rest : List Char}

/-- A capital is a word character. -/
theorem isWordChar_of_isCapital {c : Char} (hcapital : isCapital c = true) :
    isWordChar c = true := by
  have hcapitals : (0x41, 0x5A) ∈ wordRanges := .tail _ (.head _)
  simp only [isCapital, Bool.and_eq_true, decide_eq_true_eq, Char.le_def, UInt32.le_iff_toNat_le]
    at hcapital
  refine List.any_eq_true.2 ⟨_, hcapitals, ?_⟩
  simpa using hcapital

/-- A run begins with a capital. -/
theorem head?_runText (hnames : ∀ word ∈ front, IsName word) (hlast : IsName last) :
    ∃ c, (runText front last).head? = some c ∧ isCapital c = true := by
  cases front with
  | nil =>
    obtain ⟨c, followers, rfl, hcapital, -⟩ := hlast
    exact ⟨c, rfl, hcapital⟩
  | cons word front =>
    obtain ⟨c, followers, rfl, hcapital, -⟩ := hnames word List.mem_cons_self
    exact ⟨c, rfl, hcapital⟩

/-- A run stands at the beginning of a text when the text begins with it and the character
before belongs to no word. -/
theorem runIn_nil_iff {text : List Char} :
    RunIn before text [] front last rest ↔
      isWordAt before = false ∧ (front.length = 1 ∨ front.length = 2) ∧
        StartsRun text front last rest := by
  have hbegins : (∀ word ∈ front, IsName word) → IsName last →
      (isBoundary before (runText front last).head? = true ↔ isWordAt before = false) := by
    intro hnames hlast
    obtain ⟨c, hfirst, hcapital⟩ := head?_runText hnames hlast
    rw [hfirst, isBoundary, isWordAt.eq_1, isWordChar_of_isCapital hcapital]
    cases isWordAt before <;> decide
  constructor
  · rintro ⟨hcount, hnames, hlast, hwritten, hboundary, hends⟩
    exact ⟨(hbegins hnames hlast).1 hboundary, hcount, hnames, hlast, hwritten, hends⟩
  · rintro ⟨hword, hcount, hnames, hlast, hwritten, hends⟩
    exact ⟨hcount, hnames, hlast, hwritten, (hbegins hnames hlast).2 hword, hends⟩

/-- A run stands later in a text when it stands in what follows the first character. -/
theorem runIn_cons_iff {c : Char} {text skipped : List Char} :
    RunIn before (c :: text) (c :: skipped) front last rest ↔
      RunIn (some c) text skipped front last rest := by
  have hbefore : (c :: skipped).getLast?.or before = skipped.getLast?.or (some c) := by
    rw [List.getLast?_cons]
    cases skipped.getLast? <;> rfl
  constructor
  · rintro ⟨hcount, hnames, hlast, hwritten, hboundary, hends⟩
    exact ⟨hcount, hnames, hlast, (List.cons.inj hwritten).2, hbefore ▸ hboundary, hends⟩
  · rintro ⟨hcount, hnames, hlast, rfl, hboundary, hends⟩
    exact ⟨hcount, hnames, hlast, rfl, hbefore ▸ hboundary, hends⟩

/-- A run that is not at the beginning of a text is after its first character. -/
theorem RunIn.skipped_cases {c : Char} {text skipped : List Char}
    (hrun : RunIn before (c :: text) skipped front last rest) :
    skipped = [] ∨ ∃ more, skipped = c :: more ∧ RunIn (some c) text more front last rest := by
  cases skipped with
  | nil => exact .inl rfl
  | cons d more =>
    obtain rfl : c = d := (List.cons.inj hrun.written).1
    exact .inr ⟨more, rfl, runIn_cons_iff.1 hrun⟩

/-- What a search finds of the runs in a text: the first one, if there is any. -/
def FindsFirst (before : Option Char) (text : List Char) : Option (List Char) → Prop
  | some run => ∃ skipped front last rest, run = runText front last ∧
      IsFirst before text skipped front last rest
  | none => ∀ skipped front last rest, ¬ RunIn before text skipped front last rest

/-- If no run begins a text, its first run is the one of what follows the first
character. -/
theorem FindsFirst.cons {c : Char} {text : List Char} {found : Option (List Char)}
    (hnone : ∀ front last rest, ¬ RunIn before (c :: text) [] front last rest)
    (hfinds : FindsFirst (some c) text found) : FindsFirst before (c :: text) found := by
  have hlater : ∀ {skipped front last rest}, RunIn before (c :: text) skipped front last rest →
      ∃ more, skipped = c :: more ∧ RunIn (some c) text more front last rest := by
    intro skipped front last rest hrun
    rcases hrun.skipped_cases with rfl | hmore
    · exact absurd hrun (hnone _ _ _)
    · exact hmore
  cases found with
  | none =>
    intro skipped front last rest hrun
    obtain ⟨more, -, hmore⟩ := hlater hrun
    exact hfinds more front last rest hmore
  | some run =>
    obtain ⟨skipped, front, last, rest, rfl, hrun, hfirst⟩ := hfinds
    refine ⟨c :: skipped, front, last, rest, rfl, runIn_cons_iff.2 hrun,
      fun skipped' front' last' rest' hrun' => ?_⟩
    obtain ⟨more, rfl, hmore⟩ := hlater hrun'
    rcases hfirst more front' last' rest' hmore with hless | ⟨rfl, houtranks⟩
    · exact .inl (Nat.succ_lt_succ hless)
    · exact .inr ⟨rfl, houtranks⟩

/-- The first run of a text with single spaces is found. -/
theorem findsFirst_firstFrom? (before : Option Char) {text : List Char} (hspaced : Spaced text) :
    FindsFirst before text (firstFrom? before text) := by
  induction text generalizing before with
  | nil =>
    intro skipped front last rest hrun
    obtain ⟨c, hfirst, -⟩ := head?_runText hrun.names hrun.lastName
    have hwritten := hrun.written
    cases hchars : runText front last with
    | nil =>
      rw [hchars] at hfirst
      cases hfirst
    | cons d run => simp [hchars] at hwritten
  | cons c text ih =>
    have hlater := ih (some c) hspaced.2
    have hstarts := finds_startingAt? hspaced
    rw [firstFrom?]
    by_cases hword : isWordAt before = true
    · rw [if_pos hword]
      refine hlater.cons fun front last rest hrun => ?_
      have hnoWord := (runIn_nil_iff.1 hrun).1
      rw [hword] at hnoWord
      cases hnoWord
    · rw [if_neg hword]
      rw [Bool.not_eq_true] at hword
      cases hfound : startingAt? (c :: text) with
      | none =>
        rw [hfound] at hstarts
        refine hlater.cons fun front last rest hrun => ?_
        obtain ⟨-, hcount, hown⟩ := runIn_nil_iff.1 hrun
        exact hstarts front last rest hcount hown
      | some run =>
        rw [hfound] at hstarts
        obtain ⟨front, last, rest, hcount, rfl, hown, hbest⟩ := hstarts
        refine ⟨[], front, last, rest, rfl, runIn_nil_iff.2 ⟨hword, hcount, hown⟩,
          fun skipped' front' last' rest' hrun' => ?_⟩
        rcases hrun'.skipped_cases with rfl | ⟨more, rfl, -⟩
        · obtain ⟨-, hcount', hown'⟩ := runIn_nil_iff.1 hrun'
          exact .inr ⟨rfl, hbest front' last' rest' hcount' hown'⟩
        · exact .inl (Nat.zero_lt_succ _)

/-- **The first run of names is found.**  In a text whose white space is normalised, the
search for a run comes to the first one, and to nothing exactly if the text has none. -/
theorem first?_respaced (s : String) :
    FindsFirst none (respaced s).toList ((first? (respaced s)).map String.toList) := by
  have hfinds := findsFirst_firstFrom? none (spaced_respaced s)
  rw [first?, Option.map_map]
  have hsame : String.toList ∘ String.ofList = id := funext fun cs => String.toList_ofList
  rw [hsame, Option.map_id, id]
  exact hfinds

/-- Three names are taken rather than two, and the last one ends before an apostrophe that
no letter follows. -/
example : first? "Call Maria Rossi' tomorrow" = some "Call Maria Rossi" := by decide +kernel

end NameRun

end FlowDesk.Text
