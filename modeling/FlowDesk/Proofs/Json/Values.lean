/-
# Values in JSON texts

The text of a value is read back as that value, down to the order of fields and
the signs of zeros (`ofText_text`).  Three things are asked of the value: its
names are distinct in each object, its numbers are finite, and it is not nested
beyond what the reader takes.  A whole number with too many digits is written
and refused by the reader, whatever stands around it.
-/

import FlowDesk.Proofs.Json.Numbers
import FlowDesk.Proofs.Json.Strings
import FlowDesk.Proofs.Value.Shape

namespace FlowDesk

namespace Json

/-! ## Numbers with too many digits -/

open Numeral (isLong)

/-- What is read of a text with these whole numbers: the first one that is too
long is reported. -/
def unlessLong {α : Type} (wholes : List Int) (result : α) : Except ReadError α :=
  match wholes.find? isLong with
  | some n => .error (.longNumber (Nat.toDigits 10 n.natAbs).length)
  | none => .ok result

variable {α β : Type}

/-- A number that is too long does not make a text malformed. -/
theorem unlessLong_ne_malformed (wholes : List Int) (result : α) :
    unlessLong wholes result ≠ .error .malformed := by
  unfold unlessLong
  split <;> simp

/-- A text is read if none of its whole numbers is too long. -/
theorem unlessLong_eq_ok {wholes : List Int} (result : α) :
    unlessLong wholes result = .ok result ↔ ∀ n ∈ wholes, isLong n = false := by
  unfold unlessLong
  split
  · rename_i n hfind
    apply iff_of_false (by simp)
    intro hshort
    exact absurd (List.find?_some hfind) (by simp [hshort n (List.mem_of_find?_eq_some hfind)])
  · rename_i hfind
    apply iff_of_true rfl
    intro n hn
    simpa using List.find?_eq_none.1 hfind n hn

/-- The numbers of one part are met before those of the next. -/
theorem unlessLong_bind {before after : List Int} {first : α} {last : β}
    {next : α → Except ReadError β} (hnext : next first = unlessLong after last) :
    (unlessLong before first >>= next) = unlessLong (before ++ after) last := by
  unfold unlessLong at hnext ⊢
  rw [List.find?_append]
  cases before.find? isLong with
  | none => exact hnext
  | some n => rfl

/-- What was read is handed on. -/
theorem ok_bind (first : α) (next : α → Except ReadError β) :
    (Except.ok first >>= next) = next first := rfl

/-- What is made of a part does not change which number is reported. -/
theorem unlessLong_map {wholes : List Int} {first : α} {last : β}
    {next : α → Except ReadError β} (hnext : next first = .ok last) :
    (unlessLong wholes first >>= next) = unlessLong wholes last := by
  have hempty : next first = unlessLong [] last := hnext
  rw [unlessLong_bind hempty, List.append_nil]

/-! ## Values -/

/-- No white space is dropped before another character. -/
theorem skipSpace_cons {c : Char} (hspace : isSpace c = false) (more : List Char) :
    skipSpace (c :: more) = c :: more := by
  simp [skipSpace, hspace]

/-- The gap after a comma or colon is dropped. -/
theorem skipSpace_gap {c : Char} (hspace : isSpace c = false) (more : List Char) :
    skipSpace (' ' :: c :: more) = c :: more :=
  skipSpace_cons hspace more

/-- What is read as a word or a number starts neither a string nor a list nor an
object. -/
theorem readValue_of_readPlain {cs : List Char} (hread : readPlain cs ≠ .error .malformed)
    (levels count : Nat) : readValue levels (count + 1) cs = readPlain cs := by
  rw [readValue.eq_def]
  dsimp only
  split
  · exact absurd (by simp [readPlain, readNumber, readWhole]) hread
  · exact absurd (by simp [readPlain, readNumber, readWhole]) hread
  · exact absurd (by simp [readPlain, readNumber, readWhole]) hread
  · rfl

/-- A value starts neither with white space nor with a closing bracket. -/
theorem starts_of_readValue {levels count : Nat} {cs : List Char}
    (hread : readValue levels count cs ≠ .error .malformed) :
    ∃ c more, cs = c :: more ∧ isSpace c = false ∧ c ≠ ']' := by
  cases count with
  | zero => exact absurd (by rw [readValue.eq_def]) hread
  | succ count =>
    cases cs with
    | nil => exact absurd (by simp [readValue, readPlain, readNumber, readWhole]) hread
    | cons c more =>
      have hother : ∀ letter ∈ [' ', '\t', '\n', '\r', ']'], c ≠ letter := by
        rintro letter hletter rfl
        apply hread
        simp only [List.mem_cons, List.not_mem_nil, or_false] at hletter
        rcases hletter with rfl | rfl | rfl | rfl | rfl <;>
          simp [readValue, readPlain, readNumber, readWhole]
      refine ⟨c, more, rfl, ?_, hother ']' (by simp)⟩
      simp [isSpace, hother ' ', hother '\t', hother '\n', hother '\r']

/-- A value that is neither a list nor an object is read back from its text. -/
theorem readValue_writeScalar {v : Value} (hfinite : v.isFinite = true)
    (hlist : ∀ items, v ≠ .list items) (hobject : ∀ fields, v ≠ .object fields)
    {rest : List Char} (hrest : Closes rest) (levels count : Nat) :
    readValue levels (count + 1) (writeScalar v ++ rest) = unlessLong v.wholes (v, rest) := by
  have hplain : ∀ {cs}, readPlain cs = unlessLong v.wholes (v, rest) →
      readValue levels (count + 1) cs = unlessLong v.wholes (v, rest) := by
    intro cs hread
    rw [readValue_of_readPlain (hread ▸ unlessLong_ne_malformed _ _), hread]
  cases v with
  | null => exact hplain rfl
  | bool b => cases b <;> exact hplain rfl
  | int n =>
    refine hplain ((readPlain_writeInt n hrest).trans ?_)
    by_cases hlong : Numeral.mostDigits < (Nat.toDigits 10 n.natAbs).length <;>
      simp [unlessLong, Value.wholes, isLong, hlong]
  | real x =>
    cases x with
    | nan named => simp [Value.isFinite] at hfinite
    | infinite negative => simp [Value.isFinite] at hfinite
    | finite negative mantissa exponent hcanonical =>
      exact hplain (readPlain_writeReal hcanonical hrest)
  | text s =>
    rw [writeScalar, writeString_append, readValue.eq_def]
    simp only [readString_flatMap]
    rw [orMalformed, bind_pure_comp]
    simp [unlessLong, Value.wholes]
  | list items => exact absurd rfl (hlist items)
  | object fields => exact absurd rfl (hobject fields)

/-- Items that are read start as their first value does. -/
theorem starts_of_readItems {levels count : Nat} {cs : List Char}
    (hread : readItems levels count cs ≠ .error .malformed) :
    ∃ c more, cs = c :: more ∧ isSpace c = false ∧ c ≠ ']' := by
  cases count with
  | zero => exact absurd (by rw [readItems.eq_def]) hread
  | succ count =>
    refine starts_of_readValue fun (hvalue : readValue levels count cs = .error .malformed) =>
      hread ?_
    rw [readItems.eq_def]
    dsimp only
    rw [hvalue]
    rfl

/-- A bracket before anything but a closing one starts a list of items. -/
theorem readValue_bracket {levels : Nat} (hlevels : levels ≠ 0) (count : Nat) {c : Char}
    (hspace : isSpace c = false) (hbracket : c ≠ ']') (more : List Char) :
    readValue levels (count + 1) ('[' :: c :: more) =
      (readItems (levels - 1) count (c :: more) >>= fun read => pure (.list read.1, read.2)) := by
  simp only [readValue, if_neg hlevels, skipSpace_cons hspace]
  split
  · rename_i heq
    exact absurd (List.cons.inj heq).1 hbracket
  · rfl

/-- A brace before a name starts an object. -/
theorem readValue_brace {levels : Nat} (hlevels : levels ≠ 0) (count : Nat) (more : List Char) :
    readValue levels (count + 1) ('\x7b' :: '\x22' :: more) =
      (readFields (levels - 1) count ('\x22' :: more) >>= fun read =>
        pure (.object (Table.ofEntries read.1), read.2)) := by
  have hquote : isSpace '\x22' = false := by decide
  simp only [readValue, if_neg hlevels, skipSpace_cons hquote]
  rfl

/-- After a written name and the gap behind it comes the value of the field, and after
the last value a brace. -/
theorem readFields_last (name : String) {levels count : Nat} {cs rest : List Char}
    {wholes : List Int} {v : Value}
    (hread : readValue levels count cs = unlessLong wholes (v, '\x7d' :: rest)) :
    readFields levels (count + 1) (writeString name ++ ':' :: ' ' :: cs) =
      unlessLong wholes ([(name, v)], rest) := by
  obtain ⟨c, more, rfl, hspace, -⟩ := starts_of_readValue (hread ▸ unlessLong_ne_malformed _ _)
  have hcolon : isSpace ':' = false := by decide
  have hbrace : isSpace '\x7d' = false := by decide
  rw [writeString_append, readFields.eq_def]
  simp only [readString_flatMap, orMalformed, ok_bind, skipSpace_cons hcolon,
    skipSpace_gap hspace, String.ofList_toList, hread]
  exact unlessLong_map (by simp only [skipSpace_cons hbrace, pure, Except.pure])

/-- After another value there are a comma and a gap, and then the other fields. -/
theorem readFields_comma (name : String) {levels count : Nat} {cs more rest : List Char}
    {wholes others : List Int} {v : Value} {fields : List (String × Value)}
    (hread : readValue levels count cs = unlessLong wholes (v, ',' :: ' ' :: '\x22' :: more))
    (hothers : readFields levels count ('\x22' :: more) = unlessLong others (fields, rest)) :
    readFields levels (count + 1) (writeString name ++ ':' :: ' ' :: cs) =
      unlessLong (wholes ++ others) ((name, v) :: fields, rest) := by
  obtain ⟨c, start, rfl, hspace, -⟩ := starts_of_readValue (hread ▸ unlessLong_ne_malformed _ _)
  have hcolon : isSpace ':' = false := by decide
  have hcomma : isSpace ',' = false := by decide
  have hquote : isSpace '\x22' = false := by decide
  rw [writeString_append, readFields.eq_def]
  simp only [readString_flatMap, orMalformed, ok_bind, skipSpace_cons hcolon,
    skipSpace_gap hspace, String.ofList_toList, hread]
  apply unlessLong_bind
  simp only [skipSpace_cons hcomma, skipSpace_gap hquote, hothers]
  exact unlessLong_map rfl

/-- A comma or closing bracket ends a value. -/
theorem closes_cons {c : Char} (hc : c = ',' ∨ c = ']' ∨ c = '\x7d') (more : List Char) :
    Closes (c :: more) := by
  intro other hother
  cases hother
  exact hc

mutual

/-- A value is read back from its text. -/
theorem readValue_write : ∀ (v : Value) (levels count : Nat) (rest : List Char), v.Proper →
    v.isFinite = true → v.depth ≤ levels → (write [' '] v).length < count → Closes rest →
    readValue levels count (write [' '] v ++ rest) = unlessLong v.wholes (v, rest)
  | _, _, 0, _, _, _, _, hcount, _ => absurd hcount (Nat.not_lt_zero _)
  | .list [], levels, count + 1, rest, _, _, hdepth, _, _ => by
    have hlevels : levels ≠ 0 := by simp [Value.depth] at hdepth; omega
    simp [write, writeItems, readValue, hlevels, skipSpace, isSpace, unlessLong, Value.wholes,
      Value.itemsWholes]
  | .list (v :: items), levels, count + 1, rest, hproper, hfinite, hdepth, hcount, _ => by
    rw [Value.depth] at hdepth
    have hform : write [' '] (.list (v :: items)) ++ rest =
        '[' :: (writeItems [' '] (v :: items) ++ ']' :: rest) := by
      simp [write]
    have hitems := readItems_write v items (levels - 1) count
      rest hproper hfinite (by omega) (by simp [write] at hcount; omega)
    obtain ⟨c, more, hstart, hspace, hbracket⟩ :=
      starts_of_readItems (hitems ▸ unlessLong_ne_malformed _ _)
    rw [hform, hstart, readValue_bracket (by omega) count hspace hbracket, ← hstart, hitems]
    exact unlessLong_map rfl
  | .object [], levels, count + 1, rest, _, _, hdepth, _, _ => by
    have hlevels : levels ≠ 0 := by simp [Value.depth] at hdepth; omega
    simp [write, writeFields, readValue, hlevels, skipSpace, isSpace, unlessLong, Value.wholes,
      Value.fieldsWholes]
  | .object ((name, v) :: fields), levels, count + 1, rest, hproper, hfinite, hdepth,
      hcount, _ => by
    rw [Value.depth] at hdepth
    obtain ⟨hnames, hproper⟩ := hproper
    obtain ⟨more, hstart⟩ : ∃ more, writeFields [' '] ((name, v) :: fields) ++ '\x7d' :: rest =
        '\x22' :: more := by
      cases fields <;> simp [writeFields, writeString]
    have hform : write [' '] (.object ((name, v) :: fields)) ++ rest =
        '\x7b' :: (writeFields [' '] ((name, v) :: fields) ++ '\x7d' :: rest) := by
      simp [write]
    have hfields := readFields_write name v fields (levels - 1) count
      rest hproper hfinite (by omega) (by simp [write] at hcount; omega)
    rw [hform, hstart, readValue_brace (by omega) count, ← hstart, hfields]
    apply unlessLong_map
    rw [Table.ofEntries_eq hnames]
    rfl
  | .null, levels, count + 1, rest, _, hfinite, _, _, hrest =>
    readValue_writeScalar hfinite (by simp) (by simp) hrest levels count
  | .bool b, levels, count + 1, rest, _, hfinite, _, _, hrest => by
    rw [write]
    · exact readValue_writeScalar hfinite (by simp) (by simp) hrest levels count
    all_goals simp
  | .int n, levels, count + 1, rest, _, hfinite, _, _, hrest =>
    readValue_writeScalar hfinite (by simp) (by simp) hrest levels count
  | .real x, levels, count + 1, rest, _, hfinite, _, _, hrest =>
    readValue_writeScalar hfinite (by simp) (by simp) hrest levels count
  | .text s, levels, count + 1, rest, _, hfinite, _, _, hrest =>
    readValue_writeScalar hfinite (by simp) (by simp) hrest levels count

/-- Items are read back from their text. -/
theorem readItems_write : ∀ (v : Value) (items : List Value) (levels count : Nat)
    (rest : List Char), Value.ProperItems (v :: items) →
    Value.areFiniteItems (v :: items) = true → Value.itemsDepth (v :: items) ≤ levels →
    (writeItems [' '] (v :: items)).length + 2 ≤ count →
    readItems levels count (writeItems [' '] (v :: items) ++ ']' :: rest) =
      unlessLong (Value.itemsWholes (v :: items)) (v :: items, rest)
  | _, _, _, 0, _, _, _, _, hcount => by omega
  | v, [], levels, count + 1, rest, hproper, hfinite, hdepth, hcount => by
    have hv := readValue_write v levels count (']' :: rest)
      hproper.1 (by simpa [Value.areFiniteItems] using hfinite)
      (by simpa [Value.itemsDepth] using hdepth) (by simp [writeItems] at hcount; omega)
      (closes_cons (by simp) _)
    rw [writeItems, readItems.eq_def]
    dsimp only
    rw [hv, Value.itemsWholes]
    exact unlessLong_bind rfl
  | v, w :: items, levels, count + 1, rest, hproper, hfinite, hdepth, hcount => by
    obtain ⟨hfiniteHere, hfiniteRest⟩ := Bool.and_eq_true_iff.1 hfinite
    rw [Value.itemsDepth] at hdepth
    have hform : writeItems [' '] (v :: w :: items) ++ ']' :: rest =
        write [' '] v ++ ',' :: ' ' :: (writeItems [' '] (w :: items) ++ ']' :: rest) := by
      simp [writeItems]
    have hlength : (writeItems [' '] (v :: w :: items)).length =
        (write [' '] v).length + (writeItems [' '] (w :: items)).length + 2 := by
      simp [writeItems]
      omega
    have hv := readValue_write v levels count
      (',' :: ' ' :: (writeItems [' '] (w :: items) ++ ']' :: rest))
      hproper.1 hfiniteHere (by omega) (by omega) (closes_cons (by simp) _)
    have hitems := readItems_write w items levels count rest
      hproper.2 hfiniteRest (by omega) (by omega)
    obtain ⟨c, more, hstart, hspace, -⟩ :=
      starts_of_readItems (hitems ▸ unlessLong_ne_malformed _ _)
    rw [hform, readItems.eq_def]
    dsimp only
    rw [hv, Value.itemsWholes]
    apply unlessLong_bind
    have hcomma : isSpace ',' = false := by decide
    simp only [skipSpace_cons hcomma, hstart, skipSpace_gap hspace]
    rw [← hstart, hitems]
    exact unlessLong_map rfl

/-- Fields are read back from their text. -/
theorem readFields_write : ∀ (name : String) (v : Value) (fields : List (String × Value))
    (levels count : Nat) (rest : List Char), Value.ProperFields ((name, v) :: fields) →
    Value.areFiniteFields ((name, v) :: fields) = true →
    Value.fieldsDepth ((name, v) :: fields) ≤ levels →
    (writeFields [' '] ((name, v) :: fields)).length + 2 ≤ count →
    readFields levels count (writeFields [' '] ((name, v) :: fields) ++ '\x7d' :: rest) =
      unlessLong (Value.fieldsWholes ((name, v) :: fields)) ((name, v) :: fields, rest)
  | _, _, _, _, 0, _, _, _, _, hcount => by omega
  | name, v, [], levels, count + 1, rest, hproper, hfinite, hdepth, hcount => by
    have hform : writeFields [' '] [(name, v)] ++ '\x7d' :: rest =
        writeString name ++ ':' :: ' ' :: (write [' '] v ++ '\x7d' :: rest) := by
      simp [writeFields]
    have hlength : (write [' '] v).length + 2 ≤ (writeFields [' '] [(name, v)]).length := by
      simp [writeFields]
    have hv := readValue_write v levels count ('\x7d' :: rest)
      hproper.1 (by simpa [Value.areFiniteFields] using hfinite)
      (by simpa [Value.fieldsDepth] using hdepth) (by omega) (closes_cons (by simp) _)
    rw [hform, readFields_last name hv, Value.fieldsWholes, Value.fieldsWholes, List.append_nil]
  | name, v, (other, w) :: fields, levels, count + 1, rest, hproper, hfinite, hdepth, hcount => by
    obtain ⟨hfiniteHere, hfiniteRest⟩ := Bool.and_eq_true_iff.1 hfinite
    rw [Value.fieldsDepth] at hdepth
    obtain ⟨more, hmore⟩ : ∃ more, writeFields [' '] ((other, w) :: fields) ++ '\x7d' :: rest =
        '\x22' :: more := by
      cases fields <;> simp [writeFields, writeString]
    have hform : writeFields [' '] ((name, v) :: (other, w) :: fields) ++ '\x7d' :: rest =
        writeString name ++ ':' :: ' ' :: (write [' '] v ++ ',' :: ' ' ::
          (writeFields [' '] ((other, w) :: fields) ++ '\x7d' :: rest)) := by
      simp [writeFields]
    have hlength : (write [' '] v).length + (writeFields [' '] ((other, w) :: fields)).length + 2 ≤
        (writeFields [' '] ((name, v) :: (other, w) :: fields)).length := by
      simp [writeFields]
      omega
    have hv := readValue_write v levels count
      (',' :: ' ' :: (writeFields [' '] ((other, w) :: fields) ++ '\x7d' :: rest))
      hproper.1 hfiniteHere (by omega) (by omega) (closes_cons (by simp) _)
    have hfields := readFields_write other w fields levels count
      rest hproper.2 hfiniteRest (by omega) (by omega)
    rw [hmore] at hv hfields
    rw [hform, hmore]
    exact readFields_comma name hv hfields

end

/-- The text of a value is read back as that value, unless it holds a whole number
that is too long. -/
theorem ofText_text {v : Value} (hproper : v.Proper) (hfinite : v.isFinite = true)
    (hdepth : v.depth ≤ mostLevels) : ofText (text v) = unlessLong v.wholes v := by
  have hread := readValue_write v mostLevels ((write [' '] v).length + 1)
    [] hproper hfinite hdepth (Nat.lt_succ_self _) (by simp [Closes])
  rw [List.append_nil] at hread
  obtain ⟨c, more, hstart, hspace, -⟩ := starts_of_readValue (hread ▸ unlessLong_ne_malformed _ _)
  rw [ofText, text]
  simp only [String.toList_ofList]
  rw [hstart, skipSpace_cons hspace, ← hstart, hread]
  unfold unlessLong
  cases v.wholes.find? isLong <;> rfl

end Json

end FlowDesk
