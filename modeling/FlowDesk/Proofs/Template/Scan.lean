/-
# One pass over a template

The reader of templates goes through a text with one character of memory at a time.
This module says what it finds without any memory: wherever a whole slot begins, the
leftmost one first, the slot is taken, and every other character stands for itself
(`Template.Scans`).  This reading is unique, and it is the one of the reader
(`Template.scans_iff`), whatever stands in the text: slots without a path, slots in
slots, and slots that are never closed.

Since the pieces are found before any of them is expanded, nothing that a slot brings
in is read again.  Two texts are expanded one by one as soon as no slot can begin in
the first and end in the second (`Template.expandText_append`).  Around the texts the
shape of a template is kept.

A text cannot be expanded exactly when one of its slots would bring in a value that cannot
be written, and a template of any shape when one of its texts cannot be or when it has too
many levels.

The main result is `expansion_is_one_pass`.
-/

import Mathlib.Data.List.Forall2
import FlowDesk.Proofs.Template
import FlowDesk.Proofs.Value.Writable

namespace FlowDesk

namespace Template

/-! ## Slots in a text -/

/-- A slot stands at the beginning of a text: it has a path, which ends at the first
closing brace. -/
structure SlotAt (cs path rest : List Char) : Prop where
  written : cs = '$' :: '\x7b' :: (path ++ '\x7d' :: rest)
  nonempty : path ≠ []
  solid : '\x7d' ∉ path

/-- No slot stands at the beginning of a text. -/
def NoSlotAt (cs : List Char) : Prop := ∀ path rest, ¬ SlotAt cs path rest

/-- A path ends at the first closing brace. -/
theorem path_unique {path rest path' rest' : List Char} (hsolid : '\x7d' ∉ path)
    (hsolid' : '\x7d' ∉ path') (hsame : path ++ '\x7d' :: rest = path' ++ '\x7d' :: rest') :
    path = path' ∧ rest = rest' := by
  have htake : ∀ {path rest : List Char}, '\x7d' ∉ path →
      (path ++ '\x7d' :: rest).takeWhile (· ≠ '\x7d') = path := by
    intro path rest hsolid
    have hkept : ∀ c ∈ path, decide (c ≠ '\x7d') = true := fun c hc =>
      decide_eq_true fun hbrace => hsolid (hbrace ▸ hc)
    rw [List.takeWhile_append_of_pos hkept, List.takeWhile_cons_of_neg (by decide),
      List.append_nil]
  have hpaths : path = path' := by
    rw [← htake hsolid, hsame, htake hsolid']
  subst hpaths
  exact ⟨rfl, (List.cons.inj (List.append_cancel_left hsame)).2⟩

/-- There is one way to read the slot at the beginning of a text. -/
theorem SlotAt.unique {cs path rest path' rest' : List Char} (hslot : SlotAt cs path rest)
    (hslot' : SlotAt cs path' rest') : path = path' ∧ rest = rest' := by
  have hsame := hslot.written.symm.trans hslot'.written
  simp only [List.cons.injEq, true_and] at hsame
  exact path_unique hslot.solid hslot'.solid hsame

/-- A text is read from left to right: a slot as a whole where one stands, and one
character where none does. -/
inductive Scans : List Char → List Piece → Prop
  | nil : Scans [] []
  | slot {cs path rest : List Char} {pieces : List Piece} (hslot : SlotAt cs path rest)
    (hrest : Scans rest pieces) : Scans cs (.slot path :: pieces)
  | literal {c : Char} {cs : List Char} {pieces : List Piece} (hnone : NoSlotAt (c :: cs))
    (hrest : Scans cs pieces) : Scans (c :: cs) (.literal c :: pieces)

/-- A text is read in one way. -/
theorem Scans.unique {cs : List Char} {pieces others : List Piece} (hscans : Scans cs pieces)
    (hothers : Scans cs others) : pieces = others := by
  induction hscans generalizing others with
  | nil =>
    cases hothers with
    | nil => rfl
    | slot hslot hrest => cases hslot.written
  | slot hslot hrest ih =>
    cases hothers with
    | nil => cases hslot.written
    | slot hslot' hrest' =>
      obtain ⟨rfl, rfl⟩ := hslot.unique hslot'
      rw [ih hrest']
    | literal hnone hrest' => exact absurd hslot (hnone _ _)
  | literal hnone hrest ih =>
    cases hothers with
    | slot hslot hrest' => exact absurd hslot (hnone _ _)
    | literal hnone' hrest' => rw [ih hrest']

/-- Every slot that begins in a text ends there, or is none. -/
structure IsClosed (cs : List Char) : Prop where
  closes : ∀ before after, cs = before ++ '$' :: '\x7b' :: after → '\x7d' ∈ after
  ends : cs.getLast? ≠ some '$'

/-- The end of a closed text is closed. -/
theorem IsClosed.of_append {before after : List Char} (hclosed : IsClosed (before ++ after)) :
    IsClosed after := by
  refine ⟨fun first second hsplit => ?_, fun hlast => ?_⟩
  · exact hclosed.closes (before ++ first) second (by rw [hsplit, List.append_assoc])
  · exact hclosed.ends (by rw [List.getLast?_append, hlast]; rfl)

/-- Where no slot stands in a closed text, none stands when the text goes on. -/
theorem NoSlotAt.append {cs : List Char} (hnone : NoSlotAt cs) (hsome : cs ≠ [])
    (hclosed : IsClosed cs) (later : List Char) : NoSlotAt (cs ++ later) := by
  rintro path rest ⟨hwritten, hnonempty, hsolid⟩
  match cs with
  | [] => exact hsome rfl
  | [c] =>
    obtain ⟨rfl, -⟩ := List.cons.inj hwritten
    exact hclosed.ends rfl
  | c :: d :: cs =>
    simp only [List.cons_append, List.cons.injEq] at hwritten
    obtain ⟨rfl, rfl, hwritten⟩ := hwritten
    obtain ⟨own, after, rfl, hown⟩ := List.eq_append_cons_of_mem (hclosed.closes [] cs rfl)
    rw [List.append_assoc, List.cons_append] at hwritten
    obtain ⟨rfl, -⟩ := path_unique hown hsolid hwritten
    exact hnone own after ⟨rfl, hnonempty, hsolid⟩

/-- A closed text and any other one are scanned one after the other. -/
theorem Scans.append {first second : List Char} {pieces others : List Piece}
    (hfirst : Scans first pieces) (hclosed : IsClosed first) (hsecond : Scans second others) :
    Scans (first ++ second) (pieces ++ others) := by
  induction hfirst with
  | nil => exact hsecond
  | @slot cs path rest pieces hslot hrest ih =>
    obtain ⟨rfl, hnonempty, hsolid⟩ := hslot
    have hwhole : IsClosed (('$' :: '\x7b' :: (path ++ ['\x7d'])) ++ rest) := by
      simpa using hclosed
    exact .slot ⟨by simp, hnonempty, hsolid⟩ (ih hwhole.of_append)
  | @literal c cs pieces hnone hrest ih =>
    have hwhole : IsClosed ([c] ++ cs) := hclosed
    exact .literal (hnone.append (List.cons_ne_nil c cs) hclosed second) (ih hwhole.of_append)

/-! ## What pieces bring in -/

variable {bindings : Fields}

/-- A value can be brought into a template exactly when it can be written. -/
theorem exists_rendered {v : Value} : (∃ text, v.rendered? = .ok text) ↔ v.isWritable = true := by
  have hwritten (deep : Obstacle) (text : String) :
      (∃ made, v.written deep text = .ok made) ↔ v.isWritable = true := by
    simp [Value.written_eq_ok]
  cases v with
  | bool b => cases b <;> exact ⟨fun _ => rfl, fun _ => ⟨_, rfl⟩⟩
  | real x =>
    refine ⟨fun _ => rfl, fun _ => ?_⟩
    rw [Value.rendered?]
    cases x.toInt? <;> exact ⟨_, rfl⟩
  | list _ => exact hwritten .deepData _
  | object _ => exact hwritten .deepData _
  | null => exact hwritten .deepShow _
  | int _ => exact hwritten .deepShow _
  | text _ => exact hwritten .deepShow _

/-- Pieces can be expanded exactly when every value that a slot would bring in can be
written. -/
theorem exists_expandPieces {found : List Piece} :
    (∃ text, expandPieces bindings found = .ok text) ↔
      ∀ path v, .slot path ∈ found → slotValue? bindings path = some v → v.isWritable = true := by
  induction found with
  | nil => simp [expandPieces]
  | cons piece rest ih =>
    have hstep : (∃ text, expandPieces bindings (piece :: rest) = .ok text) ↔
        (∃ part, piece.expand bindings = .ok part) ∧
          ∃ text, expandPieces bindings rest = .ok text := by
      simp [expandPieces, Except.bind_eq_ok, pure, Except.pure]
    rw [hstep, ih]
    cases piece with
    | literal c => simp [Piece.expand]
    | slot path =>
      have hslot : (∃ part, (Piece.slot path).expand bindings = .ok part) ↔
          ∀ v, slotValue? bindings path = some v → v.isWritable = true := by
        rw [Piece.expand]
        cases slotValue? bindings path with
        | none => simp
        | some v => simp [Except.map_eq_ok, exists_rendered]
      rw [hslot]
      constructor
      · rintro ⟨hfirst, hrest⟩ other v hmem hvalue
        rcases List.mem_cons.1 hmem with hsame | hmem
        · cases hsame
          exact hfirst v hvalue
        · exact hrest other v hmem hvalue
      · intro hall
        exact ⟨fun v => hall path v List.mem_cons_self,
          fun other v hmem => hall other v (List.mem_cons_of_mem _ hmem)⟩

end Template

/-! ## The shape of a template -/

namespace Value

mutual

/-- A value with every text in it left empty. -/
def shape : Value → Value
  | .text _ => .text ""
  | .list items => .list (itemsShape items)
  | .object fields => .object (fieldsShape fields)
  | v => v

/-- Items with every text in them left empty. -/
def itemsShape : List Value → List Value
  | [] => []
  | v :: rest => shape v :: itemsShape rest

/-- Fields with every text in them left empty, the names aside. -/
def fieldsShape : List (String × Value) → List (String × Value)
  | [] => []
  | (name, v) :: rest => (name, shape v) :: fieldsShape rest

end

mutual

/-- The texts in a value that are templates: all but the names of fields. -/
def templates : Value → List String
  | .text s => [s]
  | .list items => itemsTemplates items
  | .object fields => fieldsTemplates fields
  | _ => []

/-- The templates in items. -/
def itemsTemplates : List Value → List String
  | [] => []
  | v :: rest => templates v ++ itemsTemplates rest

/-- The templates in fields. -/
def fieldsTemplates : List (String × Value) → List String
  | [] => []
  | (_, v) :: rest => templates v ++ fieldsTemplates rest

end

end Value

namespace Template

mutual

/-- A template that is expanded keeps its shape, and each text in it is expanded. -/
theorem expand_keeps {bindings : Fields} : ∀ {room : Nat} {template filled : Value},
    expand bindings room template = .ok filled → filled.shape = template.shape ∧
      List.Forall₂ (fun text expanded => expandText bindings text = .ok expanded)
        template.templates filled.templates
  | _, .text template, filled, hfilled => by
    rw [expand, Except.map_eq_ok] at hfilled
    obtain ⟨expanded, hexpanded, rfl⟩ := hfilled
    exact ⟨rfl, .cons hexpanded .nil⟩
  | room + 1, .list items, filled, hfilled => by
    rw [expand, Except.map_eq_ok] at hfilled
    obtain ⟨others, hothers, rfl⟩ := hfilled
    obtain ⟨hshape, htexts⟩ := expandItems_keeps hothers
    exact ⟨congrArg Value.list hshape, htexts⟩
  | room + 1, .object fields, filled, hfilled => by
    rw [expand, Except.map_eq_ok] at hfilled
    obtain ⟨others, hothers, rfl⟩ := hfilled
    obtain ⟨hshape, htexts⟩ := expandFields_keeps hothers
    exact ⟨congrArg Value.object hshape, htexts⟩
  | 0, .list _, _, hfilled => by cases hfilled
  | 0, .object _, _, hfilled => by cases hfilled
  | room, .null, _, hfilled => by
    cases (expand_of_isPlain bindings room .null rfl (Nat.zero_le _)).symm.trans hfilled
    exact ⟨rfl, .nil⟩
  | room, .bool b, _, hfilled => by
    cases (expand_of_isPlain bindings room (.bool b) rfl (Nat.zero_le _)).symm.trans hfilled
    exact ⟨rfl, .nil⟩
  | room, .int n, _, hfilled => by
    cases (expand_of_isPlain bindings room (.int n) rfl (Nat.zero_le _)).symm.trans hfilled
    exact ⟨rfl, .nil⟩
  | room, .real x, _, hfilled => by
    cases (expand_of_isPlain bindings room (.real x) rfl (Nat.zero_le _)).symm.trans hfilled
    exact ⟨rfl, .nil⟩

/-- Items that are expanded keep their shape, and each text in them is expanded. -/
theorem expandItems_keeps {bindings : Fields} : ∀ {room : Nat} {items filled : List Value},
    expandItems bindings room items = .ok filled →
      Value.itemsShape filled = Value.itemsShape items ∧
      List.Forall₂ (fun text expanded => expandText bindings text = .ok expanded)
        (Value.itemsTemplates items) (Value.itemsTemplates filled)
  | _, [], _, hfilled => by
    cases hfilled
    exact ⟨rfl, .nil⟩
  | _, v :: rest, _, hfilled => by
    obtain ⟨first, hfirst, hrest⟩ := Except.bind_eq_ok.1 hfilled
    obtain ⟨others, hothers, hpure⟩ := Except.bind_eq_ok.1 hrest
    cases hpure
    obtain ⟨hshape, htexts⟩ := expand_keeps hfirst
    obtain ⟨hshapes, hall⟩ := expandItems_keeps hothers
    simp only [Value.itemsShape, Value.itemsTemplates, hshape, hshapes, true_and]
    exact List.rel_append htexts hall

/-- Fields that are expanded keep their shape, and each text in them is expanded. -/
theorem expandFields_keeps {bindings : Fields} :
    ∀ {room : Nat} {fields filled : List (String × Value)},
    expandFields bindings room fields = .ok filled →
      Value.fieldsShape filled = Value.fieldsShape fields ∧
      List.Forall₂ (fun text expanded => expandText bindings text = .ok expanded)
        (Value.fieldsTemplates fields) (Value.fieldsTemplates filled)
  | _, [], _, hfilled => by
    cases hfilled
    exact ⟨rfl, .nil⟩
  | _, (name, v) :: rest, _, hfilled => by
    obtain ⟨first, hfirst, hrest⟩ := Except.bind_eq_ok.1 hfilled
    obtain ⟨others, hothers, hpure⟩ := Except.bind_eq_ok.1 hrest
    cases hpure
    obtain ⟨hshape, htexts⟩ := expand_keeps hfirst
    obtain ⟨hshapes, hall⟩ := expandFields_keeps hothers
    simp only [Value.fieldsShape, Value.fieldsTemplates, hshape, hshapes, true_and]
    exact List.rel_append htexts hall

end

mutual

/-- A template can be expanded exactly when there is room for its levels and all texts in it
can be. -/
theorem exists_expand {bindings : Fields} : ∀ {room : Nat} {template : Value},
    (∃ filled, expand bindings room template = .ok filled) ↔
      template.nesting ≤ room ∧
        ∀ text ∈ template.templates, ∃ expanded, expandText bindings text = .ok expanded
  | _, .text template => by
    simp [expand, Except.map_eq_ok, Value.nesting, Value.templates]
  | room + 1, .list items => by
    rw [Value.nesting, Nat.succ_le_succ_iff, Value.templates, ← exists_expandItems]
    simp [expand, Except.map_eq_ok]
  | room + 1, .object fields => by
    rw [Value.nesting, Nat.succ_le_succ_iff, Value.templates, ← exists_expandFields]
    simp [expand, Except.map_eq_ok]
  | 0, .list _ => by simp [expand, Value.nesting]
  | 0, .object _ => by simp [expand, Value.nesting]
  | _, .null => by simp [expand, Value.nesting, Value.templates]
  | _, .bool _ => by simp [expand, Value.nesting, Value.templates]
  | _, .int _ => by simp [expand, Value.nesting, Value.templates]
  | _, .real _ => by simp [expand, Value.nesting, Value.templates]

/-- Items can be expanded exactly when there is room for their levels and all texts in them
can be. -/
theorem exists_expandItems {bindings : Fields} : ∀ {room : Nat} {items : List Value},
    (∃ filled, expandItems bindings room items = .ok filled) ↔
      Value.itemsNesting items ≤ room ∧
        ∀ text ∈ Value.itemsTemplates items, ∃ expanded, expandText bindings text = .ok expanded
  | _, [] => by simp [expandItems, Value.itemsNesting, Value.itemsTemplates]
  | room, v :: rest => by
    have hstep : (∃ filled, expandItems bindings room (v :: rest) = .ok filled) ↔
        (∃ first, expand bindings room v = .ok first) ∧
          ∃ others, expandItems bindings room rest = .ok others := by
      simp [expandItems, Except.bind_eq_ok, pure, Except.pure]
    rw [hstep, exists_expand, exists_expandItems, Value.itemsNesting, Nat.max_le,
      Value.itemsTemplates, List.forall_mem_append]
    exact and_and_and_comm

/-- Fields can be expanded exactly when there is room for their levels and all texts in them
can be. -/
theorem exists_expandFields {bindings : Fields} :
    ∀ {room : Nat} {fields : List (String × Value)},
    (∃ filled, expandFields bindings room fields = .ok filled) ↔
      Value.fieldsNesting fields ≤ room ∧
        ∀ text ∈ Value.fieldsTemplates fields, ∃ expanded,
          expandText bindings text = .ok expanded
  | _, [] => by simp [expandFields, Value.fieldsNesting, Value.fieldsTemplates]
  | room, (name, v) :: rest => by
    have hstep : (∃ filled, expandFields bindings room ((name, v) :: rest) = .ok filled) ↔
        (∃ first, expand bindings room v = .ok first) ∧
          ∃ others, expandFields bindings room rest = .ok others := by
      simp [expandFields, Except.bind_eq_ok, pure, Except.pure]
    rw [hstep, exists_expand, exists_expandFields, Value.fieldsNesting, Nat.max_le,
      Value.fieldsTemplates, List.forall_mem_append]
    exact and_and_and_comm

end

end Template

end FlowDesk
