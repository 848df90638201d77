/-
# The shape of values

Three properties of a value that are found by going through all its parts: that no
object holds a name twice, that every number is finite, and how deeply it is
nested.  Each is stated here for the entries of an object, so that the parts of a
value can be treated one by one.  All three are inherited by the parts of an object
and kept when it is filled in with such parts (`Inherited`).
-/

import FlowDesk.Proofs.Table
import FlowDesk.Value.Depth
import FlowDesk.Value.Finite
import FlowDesk.Value.Writable

namespace FlowDesk.Value

mutual

/-- A value in which no object holds a name twice. -/
def Proper : Value → Prop
  | .list items => ProperItems items
  | .object fields => (Table.names fields).Nodup ∧ ProperFields fields
  | _ => True

/-- Items in which no object holds a name twice. -/
def ProperItems : List Value → Prop
  | [] => True
  | v :: rest => Proper v ∧ ProperItems rest

/-- Fields in which no object holds a name twice. -/
def ProperFields : List (String × Value) → Prop
  | [] => True
  | (_, v) :: rest => Proper v ∧ ProperFields rest

end

/-- Fields are proper when each of them is. -/
theorem properFields_iff {fields : Fields} :
    ProperFields fields ↔ ∀ entry ∈ fields, entry.2.Proper := by
  induction fields with
  | nil => simp [ProperFields]
  | cons entry rest ih => simp [ProperFields, ih]

/-- A list of texts is proper. -/
theorem proper_ofTexts (texts : List String) : (ofTexts texts).Proper := by
  rw [ofTexts, Proper]
  induction texts with
  | nil => trivial
  | cons s texts ih => exact ⟨trivial, ih⟩

/-- A list of texts holds no number that is not finite. -/
theorem isFinite_ofTexts (texts : List String) : (ofTexts texts).isFinite = true := by
  rw [ofTexts, isFinite]
  induction texts with
  | nil => rfl
  | cons s texts ih => rwa [List.map_cons, areFiniteItems]

/-- Fields are finite when each of them is. -/
theorem areFiniteFields_iff {fields : Fields} :
    areFiniteFields fields = true ↔ ∀ entry ∈ fields, entry.2.isFinite = true := by
  induction fields with
  | nil => simp [areFiniteFields]
  | cons entry rest ih => simp [areFiniteFields, ih]

mutual

/-- A finite value is given out as it is. -/
theorem finite_eq : ∀ {v : Value}, v.isFinite = true → v.finite = v
  | .list items, hfinite => by rw [finite, finiteItems_eq hfinite]
  | .object fields, hfinite => by rw [finite, finiteFields_eq hfinite]
  | .real (.nan _), hfinite => by cases hfinite
  | .real (.infinite _), hfinite => by cases hfinite
  | .real (.finite ..), _ => rfl
  | .null, _ => rfl
  | .bool _, _ => rfl
  | .int _, _ => rfl
  | .text _, _ => rfl

/-- Finite items are given out as they are. -/
theorem finiteItems_eq : ∀ {items : List Value}, areFiniteItems items = true →
    finiteItems items = items
  | [], _ => rfl
  | v :: items, hfinite => by
    rw [areFiniteItems, Bool.and_eq_true] at hfinite
    rw [finiteItems, finite_eq hfinite.1, finiteItems_eq hfinite.2]

/-- Finite fields are given out as they are. -/
theorem finiteFields_eq : ∀ {fields : List (String × Value)}, areFiniteFields fields = true →
    finiteFields fields = fields
  | [], _ => rfl
  | (name, v) :: fields, hfinite => by
    rw [areFiniteFields, Bool.and_eq_true] at hfinite
    rw [finiteFields, finite_eq hfinite.1, finiteFields_eq hfinite.2]

end

/-- An object of finite values is given out as it is. -/
theorem finite_object {fields : Fields}
    (hfinite : ∀ v ∈ Table.values fields, v.isFinite = true) :
    (object fields).finite = .object fields :=
  finite_eq (areFiniteFields_iff.2 fun entry hentry =>
    hfinite entry.2 (List.mem_map.2 ⟨entry, hentry, rfl⟩))

/-! ## Depth -/

/-- Fields are as deep as the deepest of them. -/
theorem fieldsDepth_le {fields : Fields} {levels : Nat} :
    fieldsDepth fields ≤ levels ↔ ∀ entry ∈ fields, entry.2.depth ≤ levels := by
  induction fields with
  | nil => simp [fieldsDepth]
  | cons entry rest ih => rw [fieldsDepth, Nat.max_le, ih, List.forall_mem_cons]

/-- An object has one level more than its fields. -/
theorem depth_object_le {fields : Fields} {levels : Nat} :
    (object fields).depth ≤ levels + 1 ↔ ∀ entry ∈ fields, entry.2.depth ≤ levels := by
  rw [depth, Nat.add_le_add_iff_right, fieldsDepth_le]

/-- A list of texts has at most two levels. -/
theorem depth_ofTexts (texts : List String) : (ofTexts texts).depth ≤ 2 := by
  have hitems : itemsDepth (texts.map .text) ≤ 1 := by
    induction texts with
    | nil => exact Nat.zero_le 1
    | cons s texts ih => exact Nat.max_le.2 ⟨Nat.le_refl 1, ih⟩
  rw [ofTexts, depth]
  omega

mutual

/-- A value without numbers that are not finite is as deep as it was with them. -/
theorem depth_finite : ∀ v : Value, v.finite.depth = v.depth
  | .list items => by rw [finite, depth, depth, itemsDepth_finite items]
  | .object fields => by rw [finite, depth, depth, fieldsDepth_finite fields]
  | .real (.nan _) => rfl
  | .real (.infinite _) => rfl
  | .real (.finite ..) => rfl
  | .null => rfl
  | .bool _ => rfl
  | .int _ => rfl
  | .text _ => rfl

/-- So are items. -/
theorem itemsDepth_finite : ∀ items : List Value, itemsDepth (finiteItems items) = itemsDepth items
  | [] => rfl
  | v :: rest => by rw [finiteItems, itemsDepth, itemsDepth, depth_finite v, itemsDepth_finite rest]

/-- So are fields. -/
theorem fieldsDepth_finite : ∀ fields : List (String × Value),
    fieldsDepth (finiteFields fields) = fieldsDepth fields
  | [] => rfl
  | (name, v) :: rest => by
    rw [finiteFields, fieldsDepth, fieldsDepth, depth_finite v, fieldsDepth_finite rest]

end

mutual

/-- The lists and objects in a value are no more levels than there are. -/
theorem nesting_le_depth : ∀ v : Value, v.nesting ≤ v.depth
  | .list items => Nat.succ_le_succ (itemsNesting_le_depth items)
  | .object fields => Nat.succ_le_succ (fieldsNesting_le_depth fields)
  | .null => Nat.zero_le _
  | .bool _ => Nat.zero_le _
  | .int _ => Nat.zero_le _
  | .real _ => Nat.zero_le _
  | .text _ => Nat.zero_le _

/-- Nor are those in items. -/
theorem itemsNesting_le_depth : ∀ items : List Value, itemsNesting items ≤ itemsDepth items
  | [] => Nat.le_refl 0
  | v :: rest => by
    have hfirst := nesting_le_depth v
    have hrest := itemsNesting_le_depth rest
    rw [itemsNesting, itemsDepth]
    omega

/-- Nor are those in fields. -/
theorem fieldsNesting_le_depth : ∀ fields : List (String × Value),
    fieldsNesting fields ≤ fieldsDepth fields
  | [] => Nat.le_refl 0
  | (_, v) :: rest => by
    have hfirst := nesting_le_depth v
    have hrest := fieldsNesting_le_depth rest
    rw [fieldsNesting, fieldsDepth]
    omega

end

/-- Data is given out as it is, when none of its free parts is nested too deeply. -/
theorem givenOut?_eq_some {parts : List Value} {whole v : Value} :
    givenOut? parts whole = some v ↔ (∀ part ∈ parts, part.isShallow = true) ∧ whole = v := by
  rw [givenOut?, Option.ite_none_right_eq_some, List.all_eq_true, Option.some.injEq]

/-! ## Inherited properties -/

/-- A property that is passed on from objects to their fields and back: the fields of an
object have it, and an object keeps it when a text or a field of another such object is
put in. -/
structure Inherited (holds : Value → Prop) : Prop where
  null : holds .null
  empty : holds (.object [])
  field : ∀ {fields : Fields} {entry : String × Value}, holds (.object fields) →
    entry ∈ fields → holds entry.2
  putText : ∀ {fields : Fields} (name s : String), holds (.object fields) →
    holds (.object (Table.put fields name (.text s)))
  put : ∀ {fields given : Fields} {entry : String × Value} (name : String),
    holds (.object fields) → holds (.object given) → entry ∈ given →
    holds (.object (Table.put fields name entry.2))

/-- A property of the fields of an object one by one holds of them after one was put in. -/
theorem forall_put (holds : Value → Prop) {fields : Fields} {v : Value} (name : String)
    (hfields : ∀ entry ∈ fields, holds entry.2) (hv : holds v) :
    ∀ entry ∈ Table.put fields name v, holds entry.2 := by
  intro entry hentry
  rcases Table.mem_put hentry with rfl | hmem
  · exact hv
  · exact hfields entry hmem

/-- It is inherited that no object holds a name twice. -/
theorem inherited_proper : Inherited Proper where
  null := trivial
  empty := ⟨List.nodup_nil, trivial⟩
  field hproper hentry := properFields_iff.1 hproper.2 _ hentry
  putText name _ hproper := ⟨Table.nodup_put hproper.1 name _,
    properFields_iff.2 (forall_put Proper name (properFields_iff.1 hproper.2) trivial)⟩
  put name hproper hgiven hentry := ⟨Table.nodup_put hproper.1 name _,
    properFields_iff.2 (forall_put Proper name (properFields_iff.1 hproper.2)
      (properFields_iff.1 hgiven.2 _ hentry))⟩

/-- It is inherited that every number is finite. -/
theorem inherited_isFinite : Inherited fun v => v.isFinite = true where
  null := rfl
  empty := rfl
  field hfinite hentry := areFiniteFields_iff.1 hfinite _ hentry
  putText name _ hfinite :=
    areFiniteFields_iff.2 (forall_put (·.isFinite = true) name (areFiniteFields_iff.1 hfinite) rfl)
  put name hfinite hgiven hentry :=
    areFiniteFields_iff.2 (forall_put (·.isFinite = true) name (areFiniteFields_iff.1 hfinite)
      (areFiniteFields_iff.1 hgiven _ hentry))

/-- It is inherited that a value has at most some number of levels, if there is room for
a text in an object. -/
theorem inherited_depth {levels : Nat} (hroom : 2 ≤ levels) :
    Inherited fun v => v.depth ≤ levels := by
  obtain ⟨more, rfl⟩ := Nat.exists_eq_add_of_le' hroom
  have hleaf : 1 ≤ more + 2 := Nat.le_add_left 1 (more + 1)
  exact {
    null := hleaf
    empty := hleaf
    field hdepth hentry := Nat.le_succ_of_le (depth_object_le.1 hdepth _ hentry)
    putText name _ hdepth :=
      depth_object_le.2 (forall_put (·.depth ≤ more + 1) name (depth_object_le.1 hdepth)
        (Nat.le_add_left 1 more))
    put name hdepth hgiven hentry :=
      depth_object_le.2 (forall_put (·.depth ≤ more + 1) name (depth_object_le.1 hdepth)
        (depth_object_le.1 hgiven _ hentry)) }

namespace Inherited

variable {holds : Value → Prop}

/-- What is found in an object inherits from it. -/
theorem at? (hinherited : Inherited holds) {fields : Fields} {name : String} {v : Value}
    (hfields : holds (.object fields)) (hfound : Table.at? fields name = some v) : holds v :=
  hinherited.field hfields (Table.mem_of_at?_eq_some hfound)

/-- What is found in an object, or else stands in for it, inherits from the object. -/
theorem getD (hinherited : Inherited holds) {fields : Fields} {name : String} {default : Value}
    (hfields : holds (.object fields)) (hdefault : holds default) :
    holds ((Table.at? fields name).getD default) := by
  cases hfound : Table.at? fields name with
  | none => exact hdefault
  | some v => exact hinherited.at? hfields hfound

/-- An object keeps the property when fields of an object that has it are put in. -/
theorem putAll (hinherited : Inherited holds) {fields given entries : Fields}
    (hfields : holds (.object fields)) (hgiven : holds (.object given))
    (hentries : ∀ entry ∈ entries, entry ∈ given) :
    holds (.object (Table.putAll fields entries)) := by
  induction entries generalizing fields with
  | nil => exact hfields
  | cons entry entries ih =>
    obtain ⟨hentry, hothers⟩ := List.forall_mem_cons.1 hentries
    exact ih (hinherited.put entry.1 hfields hgiven hentry) hothers

end Inherited

end FlowDesk.Value
