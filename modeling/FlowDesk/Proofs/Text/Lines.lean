/-
# Lines and blanks

How a text falls into lines.  A break ends a line wherever it stands, so the
lines of a text are those up to a break and those after it (`linesFrom_append`);
a text without breaks is one line.  What counts for a file are the lines that are
not blank: a text that starts and ends with other characters has one of these
exactly when it holds no break (`Block.lines_eq`, `Block.countP_lines`).
-/

import FlowDesk.Text.Blank
import FlowDesk.Text.Lines

namespace FlowDesk.Text

/-- Every line break is white space. -/
theorem isBlank_of_isLineBreak {c : Char} (hbreak : isLineBreak c = true) : isBlank c = true := by
  simp only [isLineBreak, Bool.or_eq_true, Bool.and_eq_true, decide_eq_true_eq] at hbreak
  simp only [isBlank, Bool.or_eq_true, Bool.and_eq_true, decide_eq_true_eq]
  omega

/-- Without a carriage return there is nothing to unify. -/
theorem unifyBreaks_eq {cs : List Char} (hreturn : '\r' ∉ cs) : unifyBreaks cs = cs := by
  induction cs with
  | nil => rfl
  | cons c cs ih =>
    rw [List.mem_cons, not_or] at hreturn
    rw [unifyBreaks, ih hreturn.2, if_neg (Ne.symm hreturn.1)]
    rintro more rfl
    exact absurd rfl hreturn.1

/-- A break ends a line wherever it stands. -/
theorem linesFrom_append {mark : Char} (hmark : isLineBreak mark = true)
    (current cs rest : List Char) :
    linesFrom current (cs ++ mark :: rest) =
      linesFrom current (cs ++ [mark]) ++ linesFrom [] rest := by
  induction cs generalizing current with
  | nil => simp [linesFrom, hmark]
  | cons c cs ih =>
    simp only [List.cons_append, linesFrom]
    split
    · rw [ih, List.cons_append]
    · exact ih _

/-- A text without breaks is one line. -/
theorem linesFrom_single {mark : Char} (hmark : isLineBreak mark = true) {cs : List Char}
    (hcs : ∀ c ∈ cs, isLineBreak c = false) (current : List Char) :
    linesFrom current (cs ++ [mark]) = [current.reverse ++ cs] := by
  induction cs generalizing current with
  | nil => simp [linesFrom, hmark]
  | cons c cs ih =>
    simp only [List.cons_append, linesFrom, hcs c List.mem_cons_self]
    rw [if_neg Bool.false_ne_true, ih (fun d hd => hcs d (List.mem_cons_of_mem _ hd))]
    simp

/-- Whether a line is kept when a file is read: it is not blank. -/
def isKept (line : List Char) : Bool :=
  decide (trim (String.ofList line) ≠ "")

/-- Only characters of the class are dropped. -/
theorem mem_dropWhile {drop : Char → Bool} {c : Char} (hdrop : drop c = false) {cs : List Char}
    (hc : c ∈ cs) : c ∈ cs.dropWhile drop := by
  induction cs with
  | nil => cases hc
  | cons d cs ih =>
    rw [List.dropWhile_cons]
    split
    · rename_i hd
      refine ih ((List.mem_cons.1 hc).resolve_left ?_)
      rintro rfl
      simp [hdrop] at hd
    · exact hc

/-- A line with a character that is no white space is kept. -/
theorem isKept_of_mem {line : List Char} {c : Char} (hc : c ∈ line) (hblank : isBlank c = false) :
    isKept line = true := by
  have hmem : c ∈ trimBy isBlank line :=
    List.mem_reverse.2 (mem_dropWhile hblank (List.mem_reverse.2 (mem_dropWhile hblank hc)))
  simp only [isKept, trim, String.toList_ofList, decide_eq_true_eq]
  intro hempty
  have hnil : trimBy isBlank line = [] := by
    rw [← String.toList_inj, String.toList_ofList] at hempty
    exact hempty
  simp [hnil] at hmem

/-- A character that is no white space stands on a line that is kept. -/
theorem exists_kept (current cs : List Char) {c : Char} (hblank : isBlank c = false)
    (hc : c ∈ current ∨ c ∈ cs) :
    ∃ line ∈ linesFrom current cs, isKept line = true := by
  induction cs generalizing current with
  | nil =>
    have hmem : c ∈ current := by simpa using hc
    rw [linesFrom, if_neg (by simp [List.ne_nil_of_mem hmem])]
    exact ⟨_, List.mem_cons_self, isKept_of_mem (List.mem_reverse.2 hmem) hblank⟩
  | cons d cs ih =>
    rw [linesFrom]
    split
    · rename_i hbreak
      rcases hc with hc | hc
      · exact ⟨_, List.mem_cons_self, isKept_of_mem (List.mem_reverse.2 hc) hblank⟩
      · have hother : c ≠ d := by
          rintro rfl
          exact absurd (isBlank_of_isLineBreak hbreak) (by simp [hblank])
        obtain ⟨line, hline, hkept⟩ := ih [] (.inr ((List.mem_cons.1 hc).resolve_left hother))
        exact ⟨line, List.mem_cons_of_mem _ hline, hkept⟩
    · apply ih (d :: current)
      rcases hc with hc | hc
      · exact .inl (List.mem_cons_of_mem _ hc)
      · rcases List.mem_cons.1 hc with rfl | hc
        · exact .inl List.mem_cons_self
        · exact .inr hc

/-! ## Blocks -/

/-- A block: a text with other characters than white space at both ends. -/
def Block (cs : List Char) : Prop :=
  ∃ first middle last, cs = first :: middle ++ [last] ∧ isBlank first = false ∧
    isBlank last = false

/-- A text in which each block is followed by a line feed. -/
def joined (blocks : List (List Char)) : List Char :=
  blocks.flatMap (· ++ ['\n'])

/-- Nothing is trimmed from a block. -/
theorem Block.trim_eq {block : List Char} (hblock : Block block) :
    trim (String.ofList block) = String.ofList block := by
  obtain ⟨first, middle, last, rfl, hfirst, hlast⟩ := hblock
  rw [trim, String.toList_ofList]
  simp [trimBy, hfirst, hlast]

/-- A block without breaks is one line of its own, and this line is kept. -/
theorem Block.lines_eq {block : List Char} (hblock : Block block)
    (hbreaks : ∀ c ∈ block, isLineBreak c = false) :
    (linesFrom [] (block ++ ['\n'])).filter isKept = [block] := by
  have hkept : isKept block = true := by
    obtain ⟨first, middle, last, rfl, hfirst, -⟩ := hblock
    exact isKept_of_mem List.mem_cons_self hfirst
  rw [linesFrom_single (by decide) hbreaks]
  simp [hkept]

/-- A block gives a line that is kept, and a block with a break gives two. -/
theorem Block.countP_lines {block : List Char} (hblock : Block block) :
    (if block.any isLineBreak then 2 else 1) ≤
      (linesFrom [] (block ++ ['\n'])).countP isKept := by
  obtain ⟨first, middle, last, hparts, hfirst, hlast⟩ := hblock
  by_cases hbreak : block.any isLineBreak
  · rw [if_pos hbreak]
    obtain ⟨mark, hmem, hmark⟩ := List.any_eq_true.1 hbreak
    obtain ⟨before, after, hsplit⟩ := List.append_of_mem hmem
    have hblank := isBlank_of_isLineBreak hmark
    have hbefore : first ∈ before := by
      cases before with
      | nil =>
        rw [hsplit, List.nil_append, List.cons_append] at hparts
        rw [(List.cons.inj hparts).1, hfirst] at hblank
        cases hblank
      | cons d before =>
        rw [hsplit, List.cons_append, List.cons_append] at hparts
        rw [(List.cons.inj hparts).1]
        exact List.mem_cons_self
    have hafter : last ∈ after := by
      have hlasts := congrArg List.getLast? hparts
      rw [List.getLast?_concat, hsplit, List.getLast?_append] at hlasts
      cases after with
      | nil =>
        rw [List.getLast?_singleton, Option.some_or, Option.some.injEq] at hlasts
        rw [hlasts, hlast] at hblank
        cases hblank
      | cons d after =>
        rw [List.getLast?_cons_cons, List.getLast?_eq_some_getLast (List.cons_ne_nil d after),
          Option.some_or, Option.some.injEq] at hlasts
        exact hlasts ▸ List.getLast_mem (List.cons_ne_nil d after)
    obtain ⟨line, hline, hkept⟩ := exists_kept [] (before ++ [mark]) hfirst
      (.inr (List.mem_append_left _ hbefore))
    obtain ⟨other, hother, hkeptOther⟩ := exists_kept [] (after ++ ['\n']) hlast
      (.inr (List.mem_append_left _ hafter))
    rw [hsplit, List.append_assoc, List.cons_append, linesFrom_append hmark, List.countP_append]
    have hone := List.countP_pos_iff.2 ⟨line, hline, hkept⟩
    have htwo := List.countP_pos_iff.2 ⟨other, hother, hkeptOther⟩
    omega
  · rw [if_neg hbreak]
    obtain ⟨line, hline, hkept⟩ := exists_kept [] (block ++ ['\n']) hfirst
      (.inr (by simp [hparts]))
    exact List.countP_pos_iff.2 ⟨line, hline, hkept⟩

/-- The lines of joined blocks are the lines of one block after the other. -/
theorem linesFrom_joined (blocks : List (List Char)) :
    linesFrom [] (joined blocks) = blocks.flatMap fun block => linesFrom [] (block ++ ['\n']) := by
  induction blocks with
  | nil => rfl
  | cons block blocks ih =>
    rw [joined, List.flatMap_cons, List.append_assoc, List.singleton_append,
      linesFrom_append (by decide), ← joined, ih, List.flatMap_cons]

/-- Joined blocks without breaks are read line by line. -/
theorem keptLines_joined {blocks : List (List Char)} (hblocks : ∀ block ∈ blocks, Block block)
    (hbreaks : ∀ block ∈ blocks, ∀ c ∈ block, isLineBreak c = false) :
    (linesFrom [] (joined blocks)).filter isKept = blocks := by
  rw [linesFrom_joined, List.filter_flatMap]
  induction blocks with
  | nil => rfl
  | cons block blocks ih =>
    rw [List.flatMap_cons, (hblocks block List.mem_cons_self).lines_eq
      (hbreaks block List.mem_cons_self),
      ih (fun other hother => hblocks other (List.mem_cons_of_mem _ hother))
        fun other hother => hbreaks other (List.mem_cons_of_mem _ hother)]
    rfl

/-- If there are no more lines to keep than blocks, then no block holds a break. -/
theorem not_isLineBreak_of_countP {blocks : List (List Char)}
    (hblocks : ∀ block ∈ blocks, Block block)
    (hcount : (linesFrom [] (joined blocks)).countP isKept ≤ blocks.length) :
    ∀ block ∈ blocks, ∀ c ∈ block, isLineBreak c = false := by
  have hleast : ∀ others : List (List Char), (∀ block ∈ others, Block block) →
      others.length + others.countP (fun block => block.any isLineBreak) ≤
        (linesFrom [] (joined others)).countP isKept := by
    intro others
    induction others with
    | nil => simp
    | cons block others ih =>
      intro hothers
      have hhere := (hothers block List.mem_cons_self).countP_lines
      have hrest := ih fun other hother => hothers other (List.mem_cons_of_mem _ hother)
      rw [linesFrom_joined, List.flatMap_cons, List.countP_append, ← linesFrom_joined,
        List.countP_cons, List.length_cons]
      split at hhere <;> rename_i hbreak <;> simp only [hbreak] at * <;> simp <;> omega
  have hnone := hleast blocks hblocks
  intro block hblock c hc
  have hzero : blocks.countP (fun block => block.any isLineBreak) = 0 := by omega
  have hclear := List.countP_eq_zero.1 hzero block hblock
  rw [List.any_eq_true] at hclear
  exact Bool.eq_false_iff.2 fun hbreak => hclear ⟨c, hc, hbreak⟩

end FlowDesk.Text
