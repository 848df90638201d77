/-
# Templates and their slots

Reading a template loses nothing: its pieces, written one after the other, are the
template again (`Template.written_pieces`).  So a template without slots is expanded to
itself (`Template.expand_of_isPlain`), whatever the bindings are, as long as it is not
nested too deeply.  A template that is a single slot is expanded to what the value of the
slot is rendered as, if it has one (`Template.expandText_slot`).
-/

import FlowDesk.Proofs.Text.Blank
import FlowDesk.Template

namespace FlowDesk

namespace Template

/-! ## Pieces -/

/-- The text of a piece as a template writes it. -/
def Piece.written : Piece → List Char
  | .literal c => [c]
  | .slot path => '$' :: '\x7b' :: path ++ ['\x7d']

/-- The text that has been read of what may become a slot. -/
def Reading.written : Reading → List Char
  | .outside => []
  | .dollar => ['$']
  | .inside reversed => '$' :: '\x7b' :: reversed.reverse

/-- The beginning of a slot that turned out to be none is written as it was. -/
theorem written_unfinished (reversed : List Char) :
    (unfinished reversed).flatMap Piece.written = '$' :: '\x7b' :: reversed.reverse := by
  rw [unfinished, List.flatMap_map]
  exact List.flatMap_singleton' _

/-- What has been read and what is still to be read are written in the pieces. -/
theorem written_piecesFrom (reading : Reading) (cs : List Char) :
    (piecesFrom reading cs).flatMap Piece.written = reading.written ++ cs := by
  fun_induction piecesFrom reading cs
  case case9 reversed rest ih =>
    cases reversed <;> simp [ih, Piece.written, Reading.written, written_unfinished]
  all_goals simp_all [Piece.written, Reading.written, written_unfinished]

/-- The pieces of a template are written as the template. -/
theorem written_pieces (template : String) :
    (pieces template).flatMap Piece.written = template.toList :=
  written_piecesFrom .outside template.toList

/-- Whether a piece is a character that stands for itself. -/
def Piece.isLiteral : Piece → Bool
  | .literal _ => true
  | .slot _ => false

/-- Pieces that are literals are expanded to what they are written as. -/
theorem expandPieces_of_literals (bindings : Fields) {found : List Piece}
    (hliterals : found.all Piece.isLiteral = true) :
    expandPieces bindings found = .ok (found.flatMap Piece.written) := by
  induction found with
  | nil => rfl
  | cons piece rest ih =>
    rw [List.all_cons, Bool.and_eq_true] at hliterals
    cases piece with
    | literal c =>
      rw [expandPieces, ih hliterals.2]
      rfl
    | slot path => cases hliterals.1

/-- A template without slots stays as it is. -/
theorem expandText_of_literals (bindings : Fields) {template : String}
    (hliterals : (pieces template).all Piece.isLiteral = true) :
    expandText bindings template = .ok template := by
  rw [expandText, expandPieces_of_literals bindings hliterals, written_pieces]
  exact congrArg Except.ok String.ofList_toList

end Template

/-! ## Values without slots -/

namespace Value

mutual

/-- Whether there are no slots in the texts of a value. -/
def isPlain : Value → Bool
  | .text s => (Template.pieces s).all Template.Piece.isLiteral
  | .list items => arePlainItems items
  | .object fields => arePlainFields fields
  | _ => true

/-- Whether there are no slots in the texts of some items. -/
def arePlainItems : List Value → Bool
  | [] => true
  | v :: rest => isPlain v && arePlainItems rest

/-- Whether there are no slots in the texts of some fields. -/
def arePlainFields : List (String × Value) → Bool
  | [] => true
  | (_, v) :: rest => isPlain v && arePlainFields rest

end

end Value

namespace Template

mutual

/-- A value without slots is expanded to itself where there is room for its levels. -/
theorem expand_of_isPlain (bindings : Fields) : ∀ (room : Nat) (v : Value),
    v.isPlain = true → v.nesting ≤ room → expand bindings room v = .ok v
  | _, .text s, hplain, _ => by
    rw [expand, expandText_of_literals bindings hplain]
    rfl
  | room + 1, .list items, hplain, hroom => by
    rw [expand, expandItems_of_arePlain bindings room items hplain (Nat.le_of_succ_le_succ hroom)]
    rfl
  | room + 1, .object fields, hplain, hroom => by
    rw [expand, expandFields_of_arePlain bindings room fields hplain (Nat.le_of_succ_le_succ hroom)]
    rfl
  | 0, .list _, _, hroom => absurd hroom (Nat.not_succ_le_zero _)
  | 0, .object _, _, hroom => absurd hroom (Nat.not_succ_le_zero _)
  | _, .null, _, _ => by rw [expand] <;> simp
  | _, .bool _, _, _ => by rw [expand] <;> simp
  | _, .int _, _, _ => by rw [expand] <;> simp
  | _, .real _, _, _ => by rw [expand] <;> simp

/-- Items without slots are expanded to themselves. -/
theorem expandItems_of_arePlain (bindings : Fields) (room : Nat) : ∀ items : List Value,
    Value.arePlainItems items = true → Value.itemsNesting items ≤ room →
      expandItems bindings room items = .ok items
  | [], _, _ => rfl
  | v :: rest, hplain, hroom => by
    rw [Value.arePlainItems, Bool.and_eq_true] at hplain
    rw [Value.itemsNesting, Nat.max_le] at hroom
    rw [expandItems, expand_of_isPlain bindings room v hplain.1 hroom.1,
      expandItems_of_arePlain bindings room rest hplain.2 hroom.2]
    rfl

/-- Fields without slots are expanded to themselves. -/
theorem expandFields_of_arePlain (bindings : Fields) (room : Nat) :
    ∀ fields : List (String × Value), Value.arePlainFields fields = true →
      Value.fieldsNesting fields ≤ room → expandFields bindings room fields = .ok fields
  | [], _, _ => rfl
  | (name, v) :: rest, hplain, hroom => by
    rw [Value.arePlainFields, Bool.and_eq_true] at hplain
    rw [Value.fieldsNesting, Nat.max_le] at hroom
    rw [expandFields, expand_of_isPlain bindings room v hplain.1 hroom.1,
      expandFields_of_arePlain bindings room rest hplain.2 hroom.2]
    rfl

end

/-! ## Slots -/

/-- A text is a name: it is not empty, and there is nothing in it that would end a slot or
a segment of a path, nor white space. -/
structure IsName (name : String) : Prop where
  nonempty : name ≠ ""
  solid : ∀ c ∈ name.toList, Text.isBlank c = false ∧ c ≠ '.' ∧ c ≠ '\x7d'

instance (name : String) : Decidable (IsName name) :=
  decidable_of_iff
    (name ≠ "" ∧ name.toList.all (fun c => !Text.isBlank c && c != '.' && c != '\x7d') = true)
    ⟨fun h => ⟨h.1, by simpa [and_assoc] using h.2⟩,
      fun h => ⟨h.nonempty, by simpa [and_assoc] using h.solid⟩⟩

/-- A template that is a single slot. -/
def slotFor (name : String) : String := "$\x7b" ++ name ++ "\x7d"

/-- A slot is read up to the next brace. -/
theorem piecesFrom_inside {path : List Char} (hbrace : ∀ c ∈ path, c ≠ '\x7d')
    (reversed rest : List Char) (hsome : reversed.reverse ++ path ≠ []) :
    piecesFrom (.inside reversed) (path ++ '\x7d' :: rest) =
      .slot (reversed.reverse ++ path) :: piecesFrom .outside rest := by
  induction path generalizing reversed with
  | nil =>
    have hreversed : reversed ≠ [] := by simpa using hsome
    simp [piecesFrom, hreversed]
  | cons c path ih =>
    obtain ⟨hc, hpath⟩ := List.forall_mem_cons.1 hbrace
    rw [List.cons_append, piecesFrom, if_neg hc, ih hpath (c :: reversed) (by simp)]
    simp

/-- A slot with a path in it is read as one. -/
theorem pieces_slotFor {path : String} (hsome : path ≠ "")
    (hbrace : ∀ c ∈ path.toList, c ≠ '\x7d') : pieces (slotFor path) = [.slot path.toList] := by
  have hchars : (slotFor path).toList = '$' :: '\x7b' :: (path.toList ++ '\x7d' :: []) := by
    simp [slotFor]
  rw [pieces, hchars, piecesFrom, if_pos rfl, piecesFrom, if_pos rfl,
    piecesFrom_inside hbrace [] [] (by simpa using hsome)]
  rfl

variable {name : String}

/-- A text without the character to cut at is one part. -/
theorem splitFrom_of_none {isCut : Char → Bool} {cs : List Char}
    (hnone : ∀ c ∈ cs, isCut c = false) (current : List Char) :
    Text.splitFrom isCut current cs = [current.reverse ++ cs] := by
  induction cs generalizing current with
  | nil => simp [Text.splitFrom]
  | cons c cs ih =>
    obtain ⟨hc, hcs⟩ := List.forall_mem_cons.1 hnone
    simp [Text.splitFrom, hc, ih hcs]

/-- A name is a path of one segment. -/
theorem segments_of_isName (hname : IsName name) : Path.segments name = [name] := by
  have htrim : Text.trimBy Text.isBlank name.toList = name.toList :=
    Text.trimBy_of_kept fun c hc => (hname.solid c hc).1
  have hdot : ∀ c ∈ name.toList, decide (c = '.') = false := fun c hc => by
    simpa using (hname.solid c hc).2.1
  rw [Path.segments, htrim, Text.split, splitFrom_of_none hdot]
  simp

/-- A slot has a value exactly when its path leads to one that is not null. -/
theorem slotValue?_eq_some {bindings : Fields} {path : List Char} {v : Value} :
    slotValue? bindings path = some v ↔
      (Value.object bindings).follow? (Path.segments (String.ofList path)) = some v ∧
        v.isNull = false := by
  rw [slotValue?]
  cases (Value.object bindings).follow? (Path.segments (String.ofList path)) with
  | none => simp
  | some found => cases found <;> simp [Value.isNull] <;> rintro rfl <;> rfl

/-- A piece by itself is expanded to what it brings in. -/
theorem expandPieces_singleton (bindings : Fields) (piece : Piece) :
    expandPieces bindings [piece] = piece.expand bindings := by
  rw [expandPieces, expandPieces]
  cases piece.expand bindings with
  | error obstacle => rfl
  | ok text => exact congrArg Except.ok (List.append_nil text)

/-- A slot by itself is expanded to what its value is rendered as, and stays as it was
written when it has none. -/
theorem expandText_slot (bindings : Fields) {path : String} (hsome : path ≠ "")
    (hbrace : ∀ c ∈ path.toList, c ≠ '\x7d') :
    expandText bindings (slotFor path) =
      match slotValue? bindings path.toList with
      | some v => v.rendered?
      | none => .ok (slotFor path) := by
  rw [expandText, pieces_slotFor hsome hbrace, expandPieces_singleton, Piece.expand]
  cases slotValue? bindings path.toList with
  | some v =>
    dsimp only
    cases v.rendered? with
    | error obstacle => rfl
    | ok text => exact congrArg Except.ok String.ofList_toList
  | none => exact congrArg Except.ok (by simp [slotFor, ← String.toList_inj])

/-- A slot with a name in it is expanded to what the value of the name is rendered as. -/
theorem expandText_slotFor (hname : IsName name) {bindings : Fields} {v : Value}
    (hbound : bindings.at? name = some v) (hnull : v.isNull = false) :
    expandText bindings (slotFor name) = v.rendered? := by
  have hfollow : (Value.object bindings).follow? [name] = some v := by
    simp [Value.follow?, Value.step?, hbound]
  have hvalue : slotValue? bindings name.toList = some v :=
    slotValue?_eq_some.2 ⟨by rw [String.ofList_toList, segments_of_isName hname, hfollow], hnull⟩
  rw [expandText_slot bindings hname.nonempty fun c hc => (hname.solid c hc).2.2, hvalue]

end Template

end FlowDesk
