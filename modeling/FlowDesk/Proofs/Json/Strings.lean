/-
# Strings in JSON texts

Every character that is written in a string is read as itself: the quote, the
backslash and the control characters behind their escapes, all others as they
are (`readString_escapeChar`). So a written string is read back whatever
characters it holds (`readString_flatMap`).
-/

import FlowDesk.Json.Reader
import FlowDesk.Json.Writer

namespace FlowDesk.Json

/-- An escape of four hexadecimal digits is read as its unit, unless this is
half of a pair. -/
theorem readString_unit {a b c d : Char} {unit : Nat} (hunit : codeUnit? a b c d = some unit)
    (hhigh : isHighUnit unit = false) (rest : List Char) :
    readString ('\\' :: 'u' :: a :: b :: c :: d :: rest) =
      prepend (unitChar unit) (readString rest) := by
  rw [readString.eq_def]
  simp only [hunit]
  split
  · rename_i e f g h after
    cases hlow : codeUnit? e f g h with
    | none =>
      rw [readString.eq_def ('\\' :: 'u' :: e :: f :: g :: h :: after)]
      simp only [hlow]
      rfl
    | some low => simp [hhigh]
  · rfl

/-- A short escape is read as the character it stands for. -/
theorem readString_short {mark c : Char} (hmark : mark ≠ 'u')
    (hshort : shortEscape? mark = some c) (rest : List Char) :
    readString ('\\' :: mark :: rest) = prepend c (readString rest) := by
  rw [readString.eq_def]
  split
  · rename_i heq
    cases heq
  · rename_i heq
    cases heq
  · rename_i heq
    exact absurd (List.cons.inj (List.cons.inj heq).2).1 hmark
  · rename_i heq
    cases heq
    simp only [hshort]
  · rename_i hescape heq
    cases heq
    exact (hescape _ _ rfl rfl).elim

/-- A character that needs no escape is read as itself. -/
theorem readString_plain {c : Char} (hquote : c ≠ '\x22') (hbackslash : c ≠ '\\')
    (hcontrol : ¬ c.toNat < 0x20) (rest : List Char) :
    readString (c :: rest) = prepend c (readString rest) := by
  rw [readString.eq_def]
  split
  · rename_i heq
    cases heq
  · rename_i heq
    exact absurd (List.cons.inj heq).1 hquote
  · rename_i heq
    exact absurd (List.cons.inj heq).1 hbackslash
  · rename_i heq
    exact absurd (List.cons.inj heq).1 hbackslash
  · rename_i heq
    cases heq
    rw [if_neg hcontrol]

/-- The hexadecimal digits of a control character are those of its code. -/
theorem hexDigits_control : ∀ n < 0x20, ∃ a b c d, Text.hexDigits 4 n = [a, b, c, d] ∧
    codeUnit? a b c d = some n ∧ isHighUnit n = false ∧ isLowUnit n = false := by
  intro n hn
  have hall : ∀ code : Fin 0x20, codeUnit? '0' '0' ((Text.hexDigits 4 code.val).getD 2 '0')
      ((Text.hexDigits 4 code.val).getD 3 '0') = some code.val ∧
      Text.hexDigits 4 code.val = ['0', '0', (Text.hexDigits 4 code.val).getD 2 '0',
        (Text.hexDigits 4 code.val).getD 3 '0'] := by decide +kernel
  obtain ⟨hunit, hdigits⟩ := hall ⟨n, hn⟩
  refine ⟨_, _, _, _, hdigits, hunit, ?_, ?_⟩
  · simp [isHighUnit]
    omega
  · simp [isLowUnit]
    omega

/-- A character is written with a short escape, by its code, or as it is. -/
theorem escapeChar_cases (c : Char) :
    (∃ mark ∈ ['\x22', '\\', 'n', 'r', 't', 'f', 'b'],
        shortEscape? mark = some c ∧ escapeChar c = ['\\', mark]) ∨
      (c.toNat < 0x20 ∧ escapeChar c = '\\' :: 'u' :: Text.hexDigits 4 c.toNat) ∨
      (c ≠ '\x22' ∧ c ≠ '\\' ∧ ¬ c.toNat < 0x20 ∧ escapeChar c = [c]) := by
  by_cases hshort : c ∈ ['\x22', '\\', '\n', '\r', '\t', '\x0c', '\x08']
  · left
    simp only [List.mem_cons, List.not_mem_nil, or_false] at hshort
    rcases hshort with rfl | rfl | rfl | rfl | rfl | rfl | rfl <;>
      refine ⟨_, ?_, ?_, rfl⟩ <;> decide
  · right
    simp only [List.mem_cons, List.not_mem_nil, or_false, not_or] at hshort
    obtain ⟨hquote, hbackslash, hfeed, hreturn, htab, hpage, hback⟩ := hshort
    rw [escapeChar, if_neg hquote, if_neg hbackslash, if_neg hfeed, if_neg hreturn, if_neg htab,
      if_neg hpage, if_neg hback]
    by_cases hcontrol : c.toNat < 0x20
    · exact .inl ⟨hcontrol, if_pos hcontrol⟩
    · exact .inr ⟨hquote, hbackslash, hcontrol, if_neg hcontrol⟩

/-- A written character is read as itself. -/
theorem readString_escapeChar (c : Char) (rest : List Char) :
    readString (escapeChar c ++ rest) = prepend c (readString rest) := by
  rcases escapeChar_cases c with ⟨mark, hmark, hshort, hform⟩ | ⟨hcontrol, hform⟩ |
    ⟨hquote, hbackslash, hcontrol, hform⟩
  · rw [hform]
    have hother : mark ≠ 'u' := by
      rintro rfl
      exact absurd hmark (by decide)
    exact readString_short hother hshort rest
  · obtain ⟨d, e, f, g, hdigits, hunit, hhigh, hlow⟩ := hexDigits_control c.toNat hcontrol
    have hchar : unitChar c.toNat = c := by
      rw [unitChar, hhigh, hlow, Bool.or_false, if_neg Bool.false_ne_true, Char.ofNat_toNat]
    rw [hform, hdigits]
    simp only [List.cons_append, List.nil_append]
    rw [readString_unit hunit hhigh, hchar]
  · rw [hform]
    exact readString_plain hquote hbackslash hcontrol rest

/-- Written characters are read up to the closing quote. -/
theorem readString_flatMap (cs rest : List Char) :
    readString (cs.flatMap escapeChar ++ '\x22' :: rest) = some (cs, rest) := by
  induction cs with
  | nil => rfl
  | cons c cs ih =>
    rw [List.flatMap_cons, List.append_assoc, readString_escapeChar, ih]
    rfl

/-- A string is written with its quotes around the escaped characters. -/
theorem writeString_append (s : String) (rest : List Char) :
    writeString s ++ rest = '\x22' :: (s.toList.flatMap escapeChar ++ '\x22' :: rest) := by
  simp [writeString]

end FlowDesk.Json
