/-
# Words and occurrences

What white space does to a text.  It separates words, so the words of a text are
those before a blank and those after it (`wordsFrom_append`); everything about
words follows from this one equation.  Words that are written with a space between
them are read back as they were (`words_intercalate`), hence a text whose white
space has been normalised stays as it is when that is done again, and nothing is
trimmed from it.

Whether a text occurs in another is decided by looking at every place, and means
that it is one of its runs of neighbours (`contains_iff`).
-/

import FlowDesk.Text.Blank

namespace FlowDesk.Text

/-! ## Words -/

/-- A word: a text with at least one character, and without white space. -/
structure IsWord (w : String) : Prop where
  nonempty : w ≠ ""
  solid : ∀ c ∈ w.toList, isBlank c = false

/-- White space separates words wherever it stands. -/
theorem wordsFrom_append {b : Char} (hblank : isBlank b = true) (current cs rest : List Char) :
    wordsFrom current (cs ++ b :: rest) = wordsFrom current cs ++ wordsFrom [] rest := by
  induction cs generalizing current with
  | nil =>
    simp only [List.nil_append, wordsFrom, if_pos hblank]
    split <;> rfl
  | cons c cs ih =>
    simp only [List.cons_append, wordsFrom]
    split
    · split
      · exact ih []
      · rw [ih [], List.cons_append]
    · exact ih (c :: current)

/-- A run without white space goes on with the word before it. -/
theorem wordsFrom_of_solid {cs : List Char} (hsolid : ∀ c ∈ cs, isBlank c = false)
    (current : List Char) (hsome : current.reverse ++ cs ≠ []) :
    wordsFrom current cs = [current.reverse ++ cs] := by
  induction cs generalizing current with
  | nil =>
    have hcurrent : current ≠ [] := by simpa using hsome
    simp [wordsFrom, hcurrent]
  | cons c cs ih =>
    obtain ⟨hc, hcs⟩ := List.forall_mem_cons.1 hsolid
    simp only [wordsFrom, hc, Bool.false_eq_true, if_false]
    rw [ih hcs (c :: current) (by simp), List.reverse_cons, List.append_assoc,
      List.singleton_append]

/-- What is read as a word has characters, and none of them is white space. -/
theorem solid_of_mem_wordsFrom {current cs word : List Char}
    (hcurrent : ∀ c ∈ current, isBlank c = false) (hword : word ∈ wordsFrom current cs) :
    word ≠ [] ∧ ∀ c ∈ word, isBlank c = false := by
  have hfirst : current.isEmpty = false → current.reverse ≠ [] ∧
      ∀ c ∈ current.reverse, isBlank c = false := fun hempty =>
    ⟨by simpa using hempty, fun c hc => hcurrent c (List.mem_reverse.1 hc)⟩
  induction cs generalizing current with
  | nil =>
    rw [wordsFrom] at hword
    split at hword
    · cases hword
    · rename_i hempty
      rw [List.mem_singleton.1 hword]
      exact hfirst (Bool.eq_false_iff.2 hempty)
  | cons c cs ih =>
    rw [wordsFrom] at hword
    split at hword
    · split at hword
      · exact ih (by simp) hword (by simp)
      · rename_i hempty
        rcases List.mem_cons.1 hword with rfl | hword
        · exact hfirst (Bool.eq_false_iff.2 hempty)
        · exact ih (by simp) hword (by simp)
    · rename_i hblank
      have hnext : ∀ d ∈ c :: current, isBlank d = false :=
        List.forall_mem_cons.2 ⟨Bool.eq_false_iff.2 hblank, hcurrent⟩
      exact ih hnext hword fun _ =>
        ⟨by simp, fun d hd => hnext d (List.mem_reverse.1 hd)⟩

/-- The words of a text are words. -/
theorem isWord_of_mem_words {s w : String} (hmem : w ∈ words s) : IsWord w := by
  obtain ⟨word, hword, rfl⟩ := List.mem_map.1 hmem
  obtain ⟨hsome, hsolid⟩ := solid_of_mem_wordsFrom (by simp) hword
  exact ⟨by simpa [← String.toList_inj] using hsome, by simpa using hsolid⟩

/-- A word is the only word in it. -/
theorem IsWord.words_eq {w : String} (hword : IsWord w) : words w = [w] := by
  have hsome : w.toList ≠ [] := by simpa using hword.nonempty
  rw [words, wordsFrom_of_solid hword.solid [] hsome]
  simp

/-- The words of two texts with a space between them are the words of both. -/
theorem words_append_space (s t : String) : words (s ++ " " ++ t) = words s ++ words t := by
  have hchars : (s ++ " " ++ t).toList = s.toList ++ ' ' :: t.toList := by
    rw [String.toList_append, String.toList_append, List.append_assoc]
    rfl
  rw [words, hchars, wordsFrom_append (by decide), List.map_append]
  rfl

/-- Words with a space between them are read back as they were. -/
theorem words_intercalate {ws : List String} (hwords : ∀ w ∈ ws, IsWord w) :
    words (String.intercalate " " ws) = ws := by
  induction ws with
  | nil => rfl
  | cons w ws ih =>
    obtain ⟨hw, hws⟩ := List.forall_mem_cons.1 hwords
    cases ws with
    | nil => rw [String.intercalate_singleton, hw.words_eq]
    | cons v vs =>
      rw [String.intercalate_cons_cons, words_append_space, hw.words_eq, ih hws,
        List.singleton_append]

/-- Words with a space between them need no normalising. -/
theorem respaced_intercalate {ws : List String} (hwords : ∀ w ∈ ws, IsWord w) :
    respaced (String.intercalate " " ws) = String.intercalate " " ws := by
  rw [respaced, words_intercalate hwords]

/-- Normalising the white space of a text leaves its words as they are. -/
theorem words_respaced (s : String) : words (respaced s) = words s :=
  words_intercalate fun _ => isWord_of_mem_words

/-- White space around a text adds no words. -/
theorem wordsFrom_of_blanks {before after : List Char} (hbefore : ∀ c ∈ before, isBlank c = true)
    (hafter : ∀ c ∈ after, isBlank c = true) (cs : List Char) :
    wordsFrom [] (before ++ cs ++ after) = wordsFrom [] cs := by
  have hblank : ∀ {blanks : List Char}, (∀ c ∈ blanks, isBlank c = true) → ∀ rest,
      wordsFrom [] (blanks ++ rest) = wordsFrom [] rest := by
    intro blanks hblanks rest
    induction blanks with
    | nil => rfl
    | cons b blanks ih =>
      obtain ⟨hb, hblanks⟩ := List.forall_mem_cons.1 hblanks
      rw [List.cons_append, wordsFrom, if_pos hb, ih hblanks]
      rfl
  rw [List.append_assoc, hblank hbefore]
  cases after with
  | nil => rw [List.append_nil]
  | cons b after =>
    obtain ⟨hb, hafter⟩ := List.forall_mem_cons.1 hafter
    rw [wordsFrom_append hb, ← List.append_nil after, hblank hafter]
    exact List.append_nil _

/-- What is read as a word stands in the text that is read. -/
theorem infix_of_mem_wordsFrom {current cs word : List Char} (hword : word ∈ wordsFrom current cs) :
    word <:+: current.reverse ++ cs := by
  induction cs generalizing current with
  | nil =>
    rw [wordsFrom] at hword
    split at hword
    · cases hword
    · obtain rfl := List.mem_singleton.1 hword
      exact (List.prefix_append _ _).isInfix
  | cons c cs ih =>
    have hlater : ∀ {word : List Char}, word <:+: cs → word <:+: current.reverse ++ c :: cs :=
      fun hinside => hinside.trans
        ((List.suffix_cons c cs).trans (List.suffix_append current.reverse (c :: cs))).isInfix
    rw [wordsFrom] at hword
    split at hword
    · split at hword
      · exact hlater (ih hword)
      · rcases List.mem_cons.1 hword with rfl | hword
        · exact (List.prefix_append _ _).isInfix
        · exact hlater (ih hword)
    · have hinside := ih hword
      rwa [List.reverse_cons, List.append_assoc, List.singleton_append] at hinside

/-- A word of a text stands in it. -/
theorem infix_of_mem_words {s w : String} (hword : w ∈ words s) : w.toList <:+: s.toList := by
  obtain ⟨word, hmem, rfl⟩ := List.mem_map.1 hword
  rw [String.toList_ofList]
  exact infix_of_mem_wordsFrom hmem

/-! ## Trimming -/

variable {drop : Char → Bool}

/-- Nothing is dropped from the beginning of a text whose first character stays. -/
theorem dropWhile_of_head? {cs : List Char} (hfirst : ∀ c ∈ cs.head?, drop c = false) :
    cs.dropWhile drop = cs := by
  cases cs with
  | nil => rfl
  | cons c cs => exact List.dropWhile_cons_of_neg (by simp [hfirst c rfl])

/-- A character that stays keeps everything after it. -/
theorem dropWhile_append_cons {c : Char} (hc : drop c = false) (before after : List Char) :
    (before ++ c :: after).dropWhile drop = before.dropWhile drop ++ c :: after := by
  induction before with
  | nil => exact List.dropWhile_cons_of_neg (by simp [hc])
  | cons b before ih =>
    rw [List.cons_append, List.dropWhile_cons, List.dropWhile_cons]
    split
    · exact ih
    · rfl

/-- Nothing is dropped from a text whose first and last characters stay. -/
theorem trimBy_eq_self {cs : List Char}
    (hfirst : ∀ c ∈ cs.head?, drop c = false) (hlast : ∀ c ∈ cs.getLast?, drop c = false) :
    trimBy drop cs = cs := by
  rw [trimBy, dropWhile_of_head? hfirst, dropWhile_of_head? (by simpa using hlast),
    List.reverse_reverse]

/-- The parts before and after a character that stays are trimmed one by one, if the
first does not end and the second does not begin with what is dropped. -/
theorem trimBy_append_cons {c : Char} (hc : drop c = false) {before after : List Char}
    (hlast : ∀ b ∈ before.getLast?, drop b = false) (hfirst : ∀ a ∈ after.head?, drop a = false) :
    trimBy drop (before ++ c :: after) = trimBy drop before ++ c :: trimBy drop after := by
  have hbefore : trimBy drop before = before.dropWhile drop := by
    have hkept : ∀ b ∈ (before.dropWhile drop).reverse.head?, drop b = false := by
      intro b hb
      rw [List.head?_reverse, Option.mem_def] at hb
      refine hlast b ?_
      rw [← List.takeWhile_append_dropWhile (p := drop) (l := before), List.getLast?_append, hb]
      rfl
    rw [trimBy, dropWhile_of_head? hkept, List.reverse_reverse]
  have hafter : trimBy drop after = (after.reverse.dropWhile drop).reverse := by
    rw [trimBy, dropWhile_of_head? hfirst]
  rw [hbefore, hafter, trimBy, dropWhile_append_cons hc, List.reverse_append, List.reverse_cons,
    List.append_assoc, List.singleton_append, dropWhile_append_cons hc, List.reverse_append,
    List.reverse_cons, List.reverse_reverse, List.append_assoc, List.singleton_append]

/-- Nothing is dropped from a text whose characters all stay. -/
theorem trimBy_of_kept {cs : List Char} (hkept : ∀ c ∈ cs, drop c = false) :
    trimBy drop cs = cs :=
  trimBy_eq_self (fun c hc => hkept c (List.mem_of_head? hc))
    fun c hc => hkept c (List.mem_of_getLast? hc)

/-- What is trimmed from a text stands before and after the rest. -/
theorem exists_trimmed (drop : Char → Bool) (cs : List Char) :
    ∃ before after, cs = before ++ trimBy drop cs ++ after ∧ (∀ c ∈ before, drop c = true) ∧
      ∀ c ∈ after, drop c = true := by
  have hdropped : ∀ cs : List Char, ∀ c ∈ cs.takeWhile drop, drop c = true := fun cs =>
    List.all_eq_true.1 List.all_takeWhile
  let front := cs.dropWhile drop
  refine ⟨cs.takeWhile drop, (front.reverse.takeWhile drop).reverse, ?_, hdropped cs,
    fun c hc => hdropped front.reverse c (List.mem_reverse.1 hc)⟩
  have hfront : front = trimBy drop cs ++ (front.reverse.takeWhile drop).reverse := by
    rw [trimBy, ← List.reverse_append, List.takeWhile_append_dropWhile, List.reverse_reverse]
  rw [List.append_assoc, ← hfront, List.takeWhile_append_dropWhile]

/-- A text is trimmed to nothing exactly if it is white space throughout. -/
theorem trim_eq_empty_iff {s : String} : trim s = "" ↔ ∀ c ∈ s.toList, isBlank c = true := by
  constructor
  · intro hempty
    obtain ⟨before, after, hchars, hbefore, hafter⟩ := exists_trimmed isBlank s.toList
    have hnothing : trimBy isBlank s.toList = [] := by
      rw [← String.toList_ofList (l := trimBy isBlank s.toList), ← trim, hempty]
      rfl
    rw [hchars, hnothing, List.append_nil]
    exact List.forall_mem_append.2 ⟨hbefore, hafter⟩
  · intro hblank
    rw [trim, trimBy, ← List.append_nil s.toList, List.dropWhile_append_of_pos hblank]
    rfl

/-- Trimming a text leaves its words as they are. -/
theorem words_trim (s : String) : words (trim s) = words s := by
  obtain ⟨before, after, hchars, hbefore, hafter⟩ := exists_trimmed isBlank s.toList
  rw [words, trim, String.toList_ofList, ← wordsFrom_of_blanks hbefore hafter, ← hchars, words]

/-- Words with a space between them begin with no white space. -/
theorem head?_intercalate {ws : List String} (hwords : ∀ w ∈ ws, IsWord w) :
    ∀ c ∈ (String.intercalate " " ws).toList.head?, isBlank c = false := by
  cases ws with
  | nil => simp
  | cons w ws =>
    obtain ⟨hw, -⟩ := List.forall_mem_cons.1 hwords
    obtain ⟨first, rest, hchars⟩ : ∃ first rest, w.toList = first :: rest :=
      List.exists_cons_of_ne_nil (by simpa using hw.nonempty)
    have hsolid : isBlank first = false := hw.solid first (by simp [hchars])
    cases ws with
    | nil => simpa [hchars] using hsolid
    | cons v vs => simpa [hchars] using hsolid

/-- Words with a space between them end with no white space. -/
theorem getLast?_intercalate {ws : List String} (hwords : ∀ w ∈ ws, IsWord w) :
    ∀ c ∈ (String.intercalate " " ws).toList.getLast?, isBlank c = false := by
  induction ws with
  | nil => simp
  | cons w ws ih =>
    obtain ⟨hw, hws⟩ := List.forall_mem_cons.1 hwords
    cases ws with
    | nil =>
      rw [String.intercalate_singleton]
      exact fun c hc => hw.solid c (List.mem_of_getLast? hc)
    | cons v vs =>
      intro c hc
      rw [String.intercalate_cons_cons, String.toList_append, List.getLast?_append] at hc
      cases hrest : (String.intercalate " " (v :: vs)).toList.getLast? with
      | some last =>
        rw [hrest, Option.some_or] at hc
        exact ih hws c (hrest ▸ hc)
      | none =>
        have hempty : String.intercalate " " (v :: vs) = "" :=
          String.toList_eq_nil_iff.1 (List.getLast?_eq_none_iff.1 hrest)
        have hnone := words_intercalate hws
        rw [hempty] at hnone
        cases hnone

/-- Nothing is trimmed from words with a space between them. -/
theorem trim_intercalate {ws : List String} (hwords : ∀ w ∈ ws, IsWord w) :
    trim (String.intercalate " " ws) = String.intercalate " " ws := by
  rw [trim, trimBy_eq_self (head?_intercalate hwords) (getLast?_intercalate hwords),
    String.ofList_toList]

/-! ## Tidy texts -/

/-- A text is tidy: it is not blank, and normalising its white space changes nothing. -/
structure IsTidy (s : String) : Prop where
  nonblank : trim s ≠ ""
  spaced : respaced s = s

/-- A tidy text is made of its words, of which there is one at least. -/
theorem IsTidy.exists_words {s : String} (htidy : IsTidy s) :
    ∃ ws, ws ≠ [] ∧ (∀ w ∈ ws, IsWord w) ∧ s = String.intercalate " " ws := by
  refine ⟨words s, ?_, fun w => isWord_of_mem_words, htidy.spaced.symm⟩
  intro hnone
  have hempty : s = "" := by
    rw [← htidy.spaced, respaced, hnone, String.intercalate_nil]
  have hblank : trim s = "" := by
    rw [hempty]
    rfl
  exact htidy.nonblank hblank

/-- Words with a space between them are a tidy text. -/
theorem isTidy_intercalate {ws : List String} (hsome : ws ≠ []) (hwords : ∀ w ∈ ws, IsWord w) :
    IsTidy (String.intercalate " " ws) := by
  refine ⟨?_, respaced_intercalate hwords⟩
  rw [trim_intercalate hwords]
  intro hempty
  have hread := words_intercalate hwords
  rw [hempty] at hread
  exact hsome hread.symm

/-- Nothing is trimmed from a tidy text. -/
theorem IsTidy.trim_eq {s : String} (htidy : IsTidy s) : trim s = s := by
  obtain ⟨ws, -, hwords, rfl⟩ := htidy.exists_words
  exact trim_intercalate hwords

/-- Two tidy texts with a space between them are tidy. -/
theorem IsTidy.append_space {s t : String} (hs : IsTidy s) (ht : IsTidy t) :
    IsTidy (s ++ " " ++ t) := by
  obtain ⟨ws, hws, hwords, rfl⟩ := hs.exists_words
  obtain ⟨vs, hvs, hothers, rfl⟩ := ht.exists_words
  rw [← String.intercalate_append_of_ne_nil hws hvs]
  exact isTidy_intercalate (by simp [hws]) (List.forall_mem_append.2 ⟨hwords, hothers⟩)

/-! ## Occurrences -/

/-- A run of characters is found exactly when it is a run of neighbours. -/
theorem occursIn_iff {needle cs : List Char} : occursIn needle cs = true ↔ needle <:+: cs := by
  induction cs with
  | nil => simp [occursIn]
  | cons c cs ih =>
    rw [occursIn, Bool.or_eq_true, List.isPrefixOf_iff_prefix, ih, List.infix_cons_iff]

/-- A text is found in another exactly when it is a run of neighbours in it. -/
theorem contains_iff {text part : String} :
    contains text part = true ↔ part.toList <:+: text.toList :=
  occursIn_iff

end FlowDesk.Text
