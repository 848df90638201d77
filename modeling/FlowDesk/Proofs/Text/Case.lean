/-
# Lowering and the words and letters of a text

The lower-case form of a sigma depends on what stands around it, but no further than
to the next white space: a blank is neither cased nor passed over when cased
characters are looked for.  So a text is lowered word by word (`lowerFrom_append`).
White space stays as it is and nothing becomes white space, as a look at the table of
cases shows, and hence the lower-case form of a word is a word (`IsWord.lower`), and
that of a tidy text is tidy (`IsTidy.lower`).

Both cases of a letter of ASCII are lowered to the same character, and both are cased.
So it does not matter for a sigma in which case they stand around it, and texts that
differ in the case of such letters have the same lower-case form (`lower_eq_of_sameButCase`).
-/

import FlowDesk.Proofs.Text.Blank
import FlowDesk.Text.Case

namespace FlowDesk.Text

/-! ## White space in the tables -/

/-- The code points of white space, as closed ranges. -/
def blankRanges : List (Nat × Nat) :=
  [ (0x09, 0x0D), (0x1C, 0x20), (0x85, 0x85), (0xA0, 0xA0), (0x1680, 0x1680), (0x2000, 0x200A),
    (0x2028, 0x2029), (0x202F, 0x202F), (0x205F, 0x205F), (0x3000, 0x3000) ]

/-- White space is what lies in these ranges. -/
theorem isBlank_iff {c : Char} :
    isBlank c = true ↔ ∃ blank ∈ blankRanges, blank.1 ≤ c.toNat ∧ c.toNat ≤ blank.2 := by
  simp only [isBlank, blankRanges, Bool.or_eq_true, Bool.and_eq_true, decide_eq_true_eq,
    List.mem_cons, List.not_mem_nil, or_false, or_and_right, exists_or, exists_eq_left]
  omega

/-- A range of code points has none with white space in common. -/
def IsApart (first last : Int) : Prop :=
  ∀ blank ∈ blankRanges, last < blank.1 ∨ (blank.2 : Int) < first

instance (first last : Int) : Decidable (IsApart first last) :=
  inferInstanceAs (Decidable (∀ blank ∈ blankRanges, _))

/-- White space lies in no range that is apart from it. -/
theorem IsApart.isBlank_eq {first last : Int} (hapart : IsApart first last) {c : Char}
    (hfirst : first ≤ c.toNat) (hlast : (c.toNat : Int) ≤ last) : isBlank c = false := by
  refine Bool.eq_false_iff.2 fun hblank => ?_
  obtain ⟨blank, hmem, hleast, hgreatest⟩ := isBlank_iff.1 hblank
  have := hapart blank hmem
  omega

/-- White space is not cased. -/
theorem casedRanges_apart : ∀ range ∈ casedRanges, IsApart range.1 range.2 := by
  decide +kernel

/-- White space is not passed over when cased characters are looked for. -/
theorem caseIgnorableRanges_apart : ∀ range ∈ caseIgnorableRanges, IsApart range.1 range.2 := by
  decide +kernel

/-- No run of the case table lowers white space, and none lowers anything to it. -/
theorem caseRuns_apart : ∀ run ∈ caseRuns, IsApart run.first run.last ∧
    IsApart (run.first + run.offset) (run.last + run.offset) := by
  decide +kernel

/-- White space is in no class of characters whose ranges are apart from it. -/
theorem inRanges_of_blank {ranges : List (Nat × Nat)}
    (hapart : ∀ range ∈ ranges, IsApart range.1 range.2) {b : Char} (hblank : isBlank b = true) :
    inRanges ranges b = false := by
  rw [inRanges, List.any_eq_false]
  intro range hrange hcovers
  simp only [Bool.and_eq_true, decide_eq_true_eq] at hcovers
  have hsolid : isBlank b = false := (hapart range hrange).isBlank_eq (by omega) (by omega)
  rw [hblank] at hsolid
  cases hsolid

/-- What a run of the case table covers lies between its ends. -/
theorem CaseRun.bounds_of_covers {run : CaseRun} {code : Nat} (hcovers : run.covers code = true) :
    run.first ≤ code ∧ code ≤ run.last := by
  simp only [covers, Bool.and_eq_true, decide_eq_true_eq] at hcovers
  exact hcovers.1

/-- A number that is no code point stands for the character with the number zero. -/
theorem toNat_ofNat_cases (n : Nat) : (Char.ofNat n).toNat = n ∨ (Char.ofNat n).toNat = 0 := by
  by_cases hvalid : n.isValidChar
  · rw [Char.ofNat, dif_pos hvalid]
    exact .inl rfl
  · rw [Char.ofNat, dif_neg hvalid]
    exact .inr rfl

/-- A character is lowered to white space exactly if it is white space; that stays as it
is. -/
theorem lowerChar_blank (c : Char) :
    isBlank (lowerChar c) = isBlank c ∧ (isBlank c = true → lowerChar c = c) := by
  unfold lowerChar
  split
  · rename_i run hfound
    obtain ⟨hlow, hlowered⟩ := caseRuns_apart run (List.mem_of_find?_eq_some hfound)
    have hcovers : run.covers c.toNat = true := by simpa using List.find?_some hfound
    obtain ⟨hfirst, hlast⟩ := CaseRun.bounds_of_covers hcovers
    have hc : isBlank c = false := hlow.isBlank_eq (by omega) (by omega)
    rw [hc]
    refine ⟨?_, fun hblank => by cases hblank⟩
    have hzero : IsApart 0 0 := by decide
    rcases toNat_ofNat_cases ((c.toNat : Int) + run.offset).toNat with hcode | hcode
    · by_cases hpositive : 0 < (c.toNat : Int) + run.offset
      · exact hlowered.isBlank_eq (by omega) (by omega)
      · exact hzero.isBlank_eq (by omega) (by omega)
    · exact hzero.isBlank_eq (by omega) (by omega)
  · exact ⟨rfl, fun _ => rfl⟩

/-! ## Lowering from word to word -/

/-- What stands behind white space does not matter when cased characters are looked
for. -/
theorem meetsCased_append {b : Char} (hblank : isBlank b = true) (cs rest : List Char) :
    meetsCased (cs ++ b :: rest) = meetsCased cs := by
  induction cs with
  | nil =>
    simp [meetsCased, inRanges_of_blank caseIgnorableRanges_apart hblank,
      inRanges_of_blank casedRanges_apart hblank]
  | cons c cs ih => simp only [List.cons_append, meetsCased, ih]

/-- What has been passed before white space does not matter for what is lowered after
it. -/
theorem lowerFrom_of_blank {b : Char} (hblank : isBlank b = true) (passed before cs : List Char) :
    lowerFrom (passed ++ b :: before) cs = lowerFrom passed cs := by
  induction cs generalizing passed with
  | nil => rfl
  | cons c cs ih =>
    have hnext := ih (c :: passed)
    rw [List.cons_append] at hnext
    rw [lowerFrom, lowerFrom, hnext, endsWord, endsWord, meetsCased_append hblank]

/-- A text is lowered up to white space, and then anew. -/
theorem lowerFrom_append {b : Char} (hblank : isBlank b = true) (before cs rest : List Char) :
    lowerFrom before (cs ++ b :: rest) = lowerFrom before cs ++ b :: lowerFrom [] rest := by
  induction cs generalizing before with
  | nil =>
    have hsigma : b ≠ 'Σ' := by
      rintro rfl
      revert hblank
      decide
    have hdotted : b ≠ 'İ' := by
      rintro rfl
      revert hblank
      decide
    simp only [List.nil_append, lowerFrom, if_neg hsigma, if_neg hdotted,
      (lowerChar_blank b).2 hblank, List.singleton_append]
    rw [← List.nil_append (b :: before), lowerFrom_of_blank hblank]
  | cons c cs ih =>
    rw [List.cons_append, lowerFrom, lowerFrom, ih, endsWord, endsWord, meetsCased_append hblank,
      List.append_assoc]

/-- A character that is no white space is lowered to such characters. -/
theorem solid_of_mem_lowerFrom {before cs : List Char} (hsolid : ∀ c ∈ cs, isBlank c = false) :
    ∀ c ∈ lowerFrom before cs, isBlank c = false := by
  induction cs generalizing before with
  | nil => simp [lowerFrom]
  | cons c cs ih =>
    obtain ⟨hc, hcs⟩ := List.forall_mem_cons.1 hsolid
    rw [lowerFrom]
    refine List.forall_mem_append.2 ⟨?_, ih hcs⟩
    split
    · split <;> simp <;> decide
    · split
      · simp
        decide
      · simpa [(lowerChar_blank c).1] using hc

/-- The lower-case form of a word is a word. -/
theorem IsWord.lower {w : String} (hword : IsWord w) : IsWord (Text.lower w) := by
  obtain ⟨hsome, hsolid⟩ := hword
  refine ⟨?_, ?_⟩
  · obtain ⟨first, rest, hchars⟩ : ∃ first rest, w.toList = first :: rest :=
      List.exists_cons_of_ne_nil (by simpa using hsome)
    rw [ne_eq, Text.lower, hchars, lowerFrom, ← String.toList_inj, String.toList_ofList]
    split
    · simp
    · split <;> simp
  · rw [Text.lower, String.toList_ofList]
    exact solid_of_mem_lowerFrom hsolid

/-- Two texts with a space between them are lowered one by one. -/
theorem lower_append_space (s t : String) : lower (s ++ " " ++ t) = lower s ++ " " ++ lower t := by
  have hchars : (s ++ " " ++ t).toList = s.toList ++ ' ' :: t.toList := by
    rw [String.toList_append, String.toList_append, List.append_assoc]
    rfl
  rw [lower, hchars, lowerFrom_append (by decide), ← String.toList_inj]
  simp [lower]

/-- Words with a space between them are lowered one by one. -/
theorem lower_intercalate (ws : List String) :
    lower (String.intercalate " " ws) = String.intercalate " " (ws.map lower) := by
  induction ws with
  | nil => rfl
  | cons w ws ih =>
    cases ws with
    | nil => simp
    | cons v vs =>
      rw [String.intercalate_cons_cons, lower_append_space, ih]
      exact String.intercalate_cons_cons.symm

/-- The lower-case form of a tidy text is tidy. -/
theorem IsTidy.lower {s : String} (htidy : IsTidy s) : IsTidy (Text.lower s) := by
  obtain ⟨ws, hsome, hwords, rfl⟩ := htidy.exists_words
  rw [lower_intercalate]
  refine isTidy_intercalate (by simpa using hsome) ?_
  exact List.forall_mem_map.2 fun w hw => (hwords w hw).lower

/-! ## Letters of ASCII -/

/-- Two texts are the same but for the case of letters of ASCII: these are what
`Char.toLower` lowers. -/
def SameButCase (s t : String) : Prop :=
  s.toList.map Char.toLower = t.toList.map Char.toLower

instance (s t : String) : Decidable (SameButCase s t) :=
  inferInstanceAs (Decidable (s.toList.map Char.toLower = t.toList.map Char.toLower))

/-- What is the same for the two cases of each letter does not depend on case. -/
theorem apply_toLower {α : Type} {f : Char → α}
    (hletters : ∀ code ∈ List.range' 65 26, f (Char.ofNat code).toLower = f (Char.ofNat code))
    (c : Char) : f c.toLower = f c := by
  by_cases hcapital : c.toNat ∈ List.range' 65 26
  · simpa using hletters c.toNat hcapital
  · have hsame : c.toLower = c := by
      refine dif_neg fun hrange => hcapital ?_
      have hfirst : 65 ≤ c.toNat := UInt32.le_iff_toNat_le.1 hrange.1
      have hlast : c.toNat ≤ 90 := UInt32.le_iff_toNat_le.1 hrange.2
      rw [List.mem_range'_1]
      omega
    rw [hsame]

theorem lowerChar_toLower (c : Char) : lowerChar c.toLower = lowerChar c :=
  apply_toLower (by decide +kernel) c

theorem inRanges_cased_toLower (c : Char) :
    inRanges casedRanges c.toLower = inRanges casedRanges c :=
  apply_toLower (by decide +kernel) c

theorem inRanges_caseIgnorable_toLower (c : Char) :
    inRanges caseIgnorableRanges c.toLower = inRanges caseIgnorableRanges c :=
  apply_toLower (by decide +kernel) c

/-- A character that is no letter of ASCII is only itself in lower case. -/
theorem toLower_eq_iff {mark : Char}
    (hmark : ∀ code ∈ List.range' 65 26,
      ((Char.ofNat code).toLower == mark) = (Char.ofNat code == mark)) {c : Char} :
    c.toLower = mark ↔ c = mark := by
  have hsame := apply_toLower (f := (· == mark)) hmark c
  rw [Bool.eq_iff_iff, beq_iff_eq, beq_iff_eq] at hsame
  exact hsame

/-- Cased characters are met in either case. -/
theorem meetsCased_map_toLower (cs : List Char) :
    meetsCased (cs.map Char.toLower) = meetsCased cs := by
  induction cs with
  | nil => rfl
  | cons c cs ih =>
    rw [List.map_cons, meetsCased, meetsCased, ih, inRanges_cased_toLower,
      inRanges_caseIgnorable_toLower]

/-- A text is lowered alike after its letters of ASCII are. -/
theorem lowerFrom_map_toLower (before cs : List Char) :
    lowerFrom (before.map Char.toLower) (cs.map Char.toLower) = lowerFrom before cs := by
  have hsigma : ∀ c : Char, c.toLower = 'Σ' ↔ c = 'Σ' := fun c =>
    toLower_eq_iff (by decide +kernel)
  have hdotted : ∀ c : Char, c.toLower = 'İ' ↔ c = 'İ' := fun c =>
    toLower_eq_iff (by decide +kernel)
  induction cs generalizing before with
  | nil => rfl
  | cons c cs ih =>
    have hrest := ih (c :: before)
    rw [List.map_cons] at hrest
    rw [List.map_cons, lowerFrom, lowerFrom, hrest, endsWord, endsWord, meetsCased_map_toLower,
      meetsCased_map_toLower, lowerChar_toLower]
    simp only [hsigma, hdotted]

/-- Texts that are the same but for case have the same lower-case form. -/
theorem lower_eq_of_sameButCase {s t : String} (hsame : SameButCase s t) : lower s = lower t := by
  rw [lower, ← lowerFrom_map_toLower, hsame, lowerFrom_map_toLower, lower]

/-- Of texts that are the same but for case, both are empty or none. -/
theorem eq_empty_iff_of_sameButCase {s t : String} (hsame : SameButCase s t) :
    s = "" ↔ t = "" := by
  have hlength := congrArg List.length hsame
  simp only [List.length_map] at hlength
  rw [← String.toList_eq_nil_iff, ← String.toList_eq_nil_iff, ← List.length_eq_zero_iff,
    ← List.length_eq_zero_iff, hlength]

end FlowDesk.Text
