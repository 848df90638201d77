/-
# Line breaks in JSON texts

The text of a value is meant to be one line, and the control characters that end
a line are escaped in it.  Three further characters end a line and are written as
they are: next line, the line separator and the paragraph separator.  The text of
a value holds a line break exactly when one of these three stands in a text or
name of the value (`any_write`, for any kind of line breaks).
-/

import FlowDesk.Proofs.Json.Values
import FlowDesk.Text.Lines

namespace FlowDesk

open Text (isLineBreak)

namespace Text

/-- The characters that end a line and are written as they are: next line, the
line separator and the paragraph separator. -/
def isSeparator (c : Char) : Bool :=
  let n := c.toNat
  n = 0x85 || n = 0x2028 || n = 0x2029

/-- The separators are the line breaks that are no control characters of ASCII. -/
theorem isLineBreak_eq {c : Char} (hcontrol : ¬ c.toNat < 0x20) :
    isLineBreak c = isSeparator c := by
  rw [Bool.eq_iff_iff]
  simp only [isLineBreak, isSeparator, Bool.or_eq_true, Bool.and_eq_true, decide_eq_true_eq]
  omega

/-- No control character of ASCII is a separator. -/
theorem isSeparator_control {c : Char} (hcontrol : c.toNat < 0x20) : isSeparator c = false := by
  rw [Bool.eq_false_iff]
  simp only [isSeparator, Ne, Bool.or_eq_true, decide_eq_true_eq]
  omega

/-- A digit does not end a line. -/
theorem isLineBreak_digit {c : Char} (hdigit : c.isDigit = true) : isLineBreak c = false := by
  rw [Char.isDigit, Bool.and_eq_true, decide_eq_true_eq, decide_eq_true_eq] at hdigit
  obtain ⟨hlow, hhigh⟩ := hdigit
  have hlow : 48 ≤ c.toNat := hlow
  have hhigh : c.toNat ≤ 57 := hhigh
  rw [Bool.eq_false_iff]
  simp only [isLineBreak, Ne, Bool.or_eq_true, Bool.and_eq_true, decide_eq_true_eq]
  omega

/-- A kind of line breaks. -/
def BreakKind (kind : Char → Bool) : Prop :=
  ∀ c, kind c = true → isLineBreak c = true

variable {kind : Char → Bool}

/-- What does not end a line is of no kind of line breaks. -/
theorem BreakKind.eq_false (hkind : BreakKind kind) {c : Char} (hc : isLineBreak c = false) :
    kind c = false := by
  rw [Bool.eq_false_iff]
  intro hbreak
  simp [hkind c hbreak] at hc

/-- A text without line breaks has none of any kind. -/
theorem BreakKind.any_eq_false (hkind : BreakKind kind) {cs : List Char}
    (hcs : cs.any isLineBreak = false) : cs.any kind = false := by
  rw [List.any_eq_false] at hcs ⊢
  exact fun c hc hbreak => hcs c hc (hkind c hbreak)

end Text

open Text (isSeparator BreakKind)

namespace Value

mutual

/-- The texts in a value, the names of fields included. -/
def texts : Value → List String
  | .text s => [s]
  | .list items => itemsTexts items
  | .object fields => fieldsTexts fields
  | _ => []

/-- The texts in some items. -/
def itemsTexts : List Value → List String
  | [] => []
  | v :: rest => texts v ++ itemsTexts rest

/-- The texts in some fields. -/
def fieldsTexts : List (String × Value) → List String
  | [] => []
  | (name, v) :: rest => name :: (texts v ++ fieldsTexts rest)

end

end Value

namespace Json

variable {kind : Char → Bool}

/-! ## Strings -/

/-- The digits of a control character's code do not end a line. -/
theorem isLineBreak_hexDigits : ∀ n < 0x20, (Text.hexDigits 4 n).any isLineBreak = false := by
  intro n hn
  have hall : ∀ code : Fin 0x20, (Text.hexDigits 4 code.val).any isLineBreak = false := by
    decide +kernel
  exact hall ⟨n, hn⟩

/-- A written character holds a break exactly when it is one and a separator. -/
theorem any_escapeChar (hkind : BreakKind kind) (c : Char) :
    (escapeChar c).any kind = (kind c && isSeparator c) := by
  rcases escapeChar_cases c with ⟨mark, hmark, hshort, hform⟩ | ⟨hcontrol, hform⟩ |
    ⟨-, -, hcontrol, hform⟩
  · have hplain : ['\\', mark].any isLineBreak = false ∧ isSeparator c = false := by
      simp only [List.mem_cons, List.not_mem_nil, or_false] at hmark
      rcases hmark with rfl | rfl | rfl | rfl | rfl | rfl | rfl <;>
        cases hshort <;> decide
    rw [hform, hkind.any_eq_false hplain.1, hplain.2, Bool.and_false]
  · have hmarks : isLineBreak '\\' = false ∧ isLineBreak 'u' = false := by decide
    rw [hform, Text.isSeparator_control hcontrol, Bool.and_false, hkind.any_eq_false]
    rw [List.any_cons, List.any_cons, isLineBreak_hexDigits _ hcontrol, hmarks.1, hmarks.2]
    rfl
  · rw [hform, List.any_cons, List.any_nil, Bool.or_false, ← Text.isLineBreak_eq hcontrol]
    cases hbreak : kind c with
    | false => rfl
    | true => rw [hkind c hbreak, Bool.and_true]

/-- The separators of a kind that stand in a text. -/
def separatorIn (kind : Char → Bool) (s : String) : Bool :=
  s.toList.any fun c => kind c && isSeparator c

/-- A written string holds a break exactly when a separator stands in it. -/
theorem any_writeString (hkind : BreakKind kind) (s : String) :
    (writeString s).any kind = separatorIn kind s := by
  have hquote : kind '\x22' = false := hkind.eq_false (by decide)
  have hchars : ∀ cs : List Char,
      (cs.flatMap escapeChar).any kind = cs.any fun c => kind c && isSeparator c := by
    intro cs
    induction cs with
    | nil => rfl
    | cons c cs ih =>
      rw [List.flatMap_cons, List.any_append, any_escapeChar hkind, ih, List.any_cons]
  rw [writeString, List.cons_append, List.any_cons, List.any_append, hchars, List.any_cons,
    List.any_nil, hquote, Bool.false_or, Bool.or_false, Bool.or_false, separatorIn]

/-! ## Numbers -/

/-- A run of digits does not end a line. -/
theorem any_isLineBreak_digits {digits : List Char} (hdigits : ∀ c ∈ digits, c.isDigit = true) :
    digits.any isLineBreak = false :=
  List.any_eq_false.2 fun c hc => Bool.eq_false_iff.1 (Text.isLineBreak_digit (hdigits c hc))

/-- The digits of a number do not end a line. -/
theorem any_isLineBreak_toDigits (n : Nat) : (Nat.toDigits 10 n).any isLineBreak = false :=
  any_isLineBreak_digits fun c hc => Nat.isDigit_of_mem_toDigits (by decide) (by decide) hc

/-- Zeros do not end a line. -/
theorem any_isLineBreak_zeros (n : Nat) : (List.replicate n '0').any isLineBreak = false :=
  any_isLineBreak_digits fun c hc => by
    rw [List.eq_of_mem_replicate hc]
    decide

/-- A decimal does not end a line, however it is laid out. -/
theorem any_isLineBreak_decimal {d : Decimal} (hd : d.WellWritten) :
    (d.text .plain).any isLineBreak = false := by
  have htake : ∀ n, (d.digits.take n).any isLineBreak = false := fun n =>
    any_isLineBreak_digits fun c hc => hd.digits c (List.mem_of_mem_take hc)
  have hdrop : ∀ n, (d.digits.drop n).any isLineBreak = false := fun n =>
    any_isLineBreak_digits fun c hc => hd.digits c (List.mem_of_mem_drop hc)
  have hall := any_isLineBreak_digits hd.digits
  have hmarks : isLineBreak '0' = false ∧ isLineBreak '.' = false ∧ isLineBreak 'e' = false ∧
    isLineBreak '-' = false ∧ isLineBreak '+' = false := by decide
  obtain ⟨hzero, hpoint, he, hminus, hplus⟩ := hmarks
  have hexponent : (Decimal.exponentText (d.point - 1)).any isLineBreak = false := by
    unfold Decimal.exponentText
    dsimp only
    split <;> split <;> simp [hzero, hminus, hplus, any_isLineBreak_toDigits]
  unfold Decimal.text
  dsimp only
  split
  · split
    · simp only [List.any_append, List.any_cons, List.any_nil, hzero, hpoint,
        any_isLineBreak_zeros, hall, Bool.or_false]
    · split
      · simp only [List.any_append, hall, any_isLineBreak_zeros, Bool.false_or]
        decide
      · simp only [List.any_append, List.any_cons, htake, hdrop, hpoint, Bool.or_false]
  · split <;>
      simp only [List.any_append, List.any_cons, List.any_nil, htake, hdrop, hpoint, he, hexponent,
        Bool.or_false]

/-- A written finite number does not end a line. -/
theorem any_isLineBreak_writeReal {negative : Bool} {mantissa : Nat} {exponent : Int}
    (hcanonical : Binary64.Canonical mantissa exponent) :
    (writeReal (.finite negative mantissa exponent hcanonical)).any isLineBreak = false := by
  have hminus : isLineBreak '-' = false := by decide
  have hbody : (if mantissa = 0 then '0' :: DecimalLayout.plain.wholeMark
      else (Binary64.shortest mantissa exponent).text .plain).any isLineBreak = false := by
    split
    · decide
    · rename_i hmantissa
      exact any_isLineBreak_decimal
        (Binary64.shortest_near (Nat.pos_of_ne_zero hmantissa) hcanonical.1).1
  simp only [writeReal, Binary64.text, Binary64.textWith, String.toList_ofList]
  cases negative <;> simp [hminus, hbody]

/-! ## Values -/

/-- A value that is neither a list nor an object holds a break exactly when a
separator stands in it. -/
theorem any_writeScalar (hkind : BreakKind kind) {v : Value} (hfinite : v.isFinite = true)
    (hlist : ∀ items, v ≠ .list items) (hobject : ∀ fields, v ≠ .object fields) :
    (writeScalar v).any kind = v.texts.any (separatorIn kind) := by
  cases v with
  | null => exact hkind.any_eq_false (by decide)
  | bool b => cases b <;> exact hkind.any_eq_false (by decide)
  | int n =>
    have hminus : isLineBreak '-' = false := by decide
    apply hkind.any_eq_false
    by_cases hneg : n < 0
    · simp only [writeScalar, writeInt, if_pos hneg, List.any_cons, hminus,
        any_isLineBreak_toDigits, Bool.false_or]
    · simp only [writeScalar, writeInt, if_neg hneg, any_isLineBreak_toDigits]
  | real x =>
    cases x with
    | nan named => simp [Value.isFinite] at hfinite
    | infinite negative => simp [Value.isFinite] at hfinite
    | finite negative mantissa exponent hcanonical =>
      exact hkind.any_eq_false (any_isLineBreak_writeReal hcanonical)
  | text s =>
    rw [writeScalar, any_writeString hkind, Value.texts, List.any_cons, List.any_nil, Bool.or_false]
  | list items => exact absurd rfl (hlist items)
  | object fields => exact absurd rfl (hobject fields)

mutual

/-- The text of a value holds a break exactly when a separator stands in one of its
texts. -/
theorem any_write (hkind : BreakKind kind) : ∀ v : Value, v.isFinite = true →
    (write [' '] v).any kind = v.texts.any (separatorIn kind)
  | .list items, hfinite => by
    have hopen : kind '[' = false := hkind.eq_false (by decide)
    have hclose : kind ']' = false := hkind.eq_false (by decide)
    have hitems := any_writeItems hkind items hfinite
    simp only [write, Value.texts, List.any_append, List.any_cons, List.any_nil, hopen, hclose,
      hitems, Bool.false_or, Bool.or_false]
  | .object fields, hfinite => by
    have hopen : kind '\x7b' = false := hkind.eq_false (by decide)
    have hclose : kind '\x7d' = false := hkind.eq_false (by decide)
    have hfields := any_writeFields hkind fields hfinite
    simp only [write, Value.texts, List.any_append, List.any_cons, List.any_nil, hopen, hclose,
      hfields, Bool.false_or, Bool.or_false]
  | .null, hfinite => any_writeScalar hkind hfinite (by simp) (by simp)
  | .bool true, hfinite => any_writeScalar hkind hfinite (by simp) (by simp)
  | .bool false, hfinite => any_writeScalar hkind hfinite (by simp) (by simp)
  | .int n, hfinite => any_writeScalar hkind hfinite (by simp) (by simp)
  | .real x, hfinite => any_writeScalar hkind hfinite (by simp) (by simp)
  | .text s, hfinite => any_writeScalar hkind hfinite (by simp) (by simp)

/-- The text of some items holds a break exactly when a separator stands in one of
their texts. -/
theorem any_writeItems (hkind : BreakKind kind) : ∀ items : List Value,
    Value.areFiniteItems items = true →
    (writeItems [' '] items).any kind = (Value.itemsTexts items).any (separatorIn kind)
  | [], _ => rfl
  | [v], hfinite => by
    have hv := any_write hkind v (Bool.and_eq_true_iff.1 hfinite).1
    rw [writeItems, Value.itemsTexts, Value.itemsTexts, List.append_nil, hv]
  | v :: w :: items, hfinite => by
    have hcomma : kind ',' = false := hkind.eq_false (by decide)
    have hgap : kind ' ' = false := hkind.eq_false (by decide)
    have hv := any_write hkind v (Bool.and_eq_true_iff.1 hfinite).1
    have hitems := any_writeItems hkind (w :: items) (Bool.and_eq_true_iff.1 hfinite).2
    have hform : writeItems [' '] (v :: w :: items) =
        write [' '] v ++ ',' :: ' ' :: writeItems [' '] (w :: items) := by
      simp [writeItems]
    rw [hform, Value.itemsTexts]
    simp only [List.any_append, List.any_cons, hv, hitems, hcomma, hgap, Bool.false_or]

/-- The text of some fields holds a break exactly when a separator stands in one of
their texts or names. -/
theorem any_writeFields (hkind : BreakKind kind) : ∀ fields : List (String × Value),
    Value.areFiniteFields fields = true →
    (writeFields [' '] fields).any kind = (Value.fieldsTexts fields).any (separatorIn kind)
  | [], _ => rfl
  | [(name, v)], hfinite => by
    have hcolon : kind ':' = false := hkind.eq_false (by decide)
    have hgap : kind ' ' = false := hkind.eq_false (by decide)
    have hv := any_write hkind v (Bool.and_eq_true_iff.1 hfinite).1
    have hform : writeFields [' '] [(name, v)] =
        writeString name ++ ':' :: ' ' :: write [' '] v := by
      simp [writeFields]
    rw [hform, Value.fieldsTexts, Value.fieldsTexts, List.append_nil]
    simp only [List.any_append, List.any_cons, any_writeString hkind, hv, hcolon, hgap,
      Bool.false_or]
  | (name, v) :: (other, w) :: fields, hfinite => by
    have hcolon : kind ':' = false := hkind.eq_false (by decide)
    have hcomma : kind ',' = false := hkind.eq_false (by decide)
    have hgap : kind ' ' = false := hkind.eq_false (by decide)
    have hv := any_write hkind v (Bool.and_eq_true_iff.1 hfinite).1
    have hfields :=
      any_writeFields hkind ((other, w) :: fields) (Bool.and_eq_true_iff.1 hfinite).2
    have hform : writeFields [' '] ((name, v) :: (other, w) :: fields) =
        writeString name ++ ':' :: ' ' :: (write [' '] v ++ ',' :: ' ' ::
          writeFields [' '] ((other, w) :: fields)) := by
      simp [writeFields]
    rw [hform, Value.fieldsTexts]
    simp only [List.any_append, List.any_cons, any_writeString hkind, hv, hfields, hcolon, hcomma,
      hgap, Bool.false_or]

end

/-- No carriage return stands in the text of a value. -/
theorem return_not_mem_write {v : Value} (hfinite : v.isFinite = true) :
    '\r' ∉ write [' '] v := by
  have hkind : BreakKind (· == '\r') := by
    intro c hc
    rw [beq_iff_eq] at hc
    rw [hc]
    decide
  have hnone : v.texts.any (separatorIn (· == '\r')) = false := by
    apply List.any_eq_false.2
    intro s _ hs
    obtain ⟨c, -, hc⟩ := List.any_eq_true.1 hs
    rw [Bool.and_eq_true, beq_iff_eq] at hc
    exact absurd hc.2 (by rw [hc.1]; decide)
  rw [← any_write hkind v hfinite] at hnone
  intro hmem
  exact List.any_eq_false.1 hnone _ hmem (by decide)

/-- The text of a value is one line exactly when no separator stands in its texts. -/
theorem noBreak_write {v : Value} (hfinite : v.isFinite = true) :
    (∀ c ∈ write [' '] v, isLineBreak c = false) ↔
      ∀ s ∈ v.texts, ∀ c ∈ s.toList, isSeparator c = false := by
  have hkind : BreakKind isLineBreak := fun _ hc => hc
  have hany := any_write hkind v hfinite
  have hseparator : ∀ s, separatorIn isLineBreak s = s.toList.any isSeparator := by
    intro s
    refine congrArg (List.any s.toList) (funext fun c => ?_)
    by_cases hcontrol : c.toNat < 0x20
    · rw [Text.isSeparator_control hcontrol, Bool.and_false]
    · rw [Text.isLineBreak_eq hcontrol, Bool.and_self]
  constructor
  · intro hnone s hs c hc
    have hclear : (write [' '] v).any isLineBreak = false := by simpa using hnone
    rw [hany, List.any_eq_false] at hclear
    have hplain := hclear s hs
    rw [hseparator, List.any_eq_true] at hplain
    exact Bool.eq_false_iff.2 fun hbreak => hplain ⟨c, hc, hbreak⟩
  · intro hnone
    have hclear : v.texts.any (separatorIn isLineBreak) = false := by
      apply List.any_eq_false.2
      intro s hs
      rw [hseparator, Bool.not_eq_true, List.any_eq_false]
      exact fun c hc => Bool.eq_false_iff.1 (hnone s hs c hc)
    rw [← hany, List.any_eq_false] at hclear
    exact fun c hc => Bool.eq_false_iff.2 (hclear c hc)

end Json

end FlowDesk
