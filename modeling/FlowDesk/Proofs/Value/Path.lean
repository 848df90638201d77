/-
# The segments of joined paths, and where they lead

Two paths with a dot between them are a path.  Its segments are those of the
first and then those of the second (`Path.segments_join`), as long as no white
space stands beside the dot: only the white space around a whole path is
dropped.  With `Value.follow?_append` the joined path leads from a value to
where the second path leads from the end of the first (`paths_compose`).

A path that leads nowhere comes to a dead end: a value from which its next segment
leads to no other (`Value.follow?_eq_none_iff`).  A value without parts is one for every
segment, and no path is without segments, so no path leads on from it.
-/

import FlowDesk.Proofs.Table
import FlowDesk.Proofs.Text.Blank
import FlowDesk.Run.Context
import FlowDesk.Value.Path

namespace FlowDesk

/-- The parts of a text are those before a cut and those after it. -/
theorem Text.splitFrom_append {isCut : Char → Bool} {cut : Char} (hcut : isCut cut = true)
    (current before after : List Char) :
    splitFrom isCut current (before ++ cut :: after) =
      splitFrom isCut current before ++ splitFrom isCut [] after := by
  induction before generalizing current with
  | nil => simp [splitFrom, hcut]
  | cons c before ih =>
    simp only [List.cons_append, splitFrom, ih]
    split <;> rfl

/-- A text has a part even if it is empty. -/
theorem Text.splitFrom_ne_nil (isCut : Char → Bool) (current cs : List Char) :
    splitFrom isCut current cs ≠ [] := by
  induction cs generalizing current with
  | nil => simp [splitFrom]
  | cons c cs ih =>
    rw [splitFrom]
    split
    · simp
    · exact ih _

namespace Path

variable {first second : String}

/-- The segments of two paths with a dot between them are the segments of both. -/
theorem segments_join (hlast : ∀ c ∈ first.toList.getLast?, Text.isBlank c = false)
    (hfirst : ∀ c ∈ second.toList.head?, Text.isBlank c = false) :
    segments (first ++ "." ++ second) = segments first ++ segments second := by
  have hchars : (first ++ "." ++ second).toList = first.toList ++ '.' :: second.toList := by
    simp
  rw [segments, hchars, Text.trimBy_append_cons (by decide) hlast hfirst, Text.split,
    Text.splitFrom_append (by decide), List.map_append]
  rfl

/-- A path has a segment even if it is empty. -/
theorem segments_ne_nil (path : String) : segments path ≠ [] := by
  rw [segments, Text.split, ne_eq, List.map_eq_nil_iff]
  exact Text.splitFrom_ne_nil _ _ _

end Path

namespace Value

/-! ## Dead ends -/

/-- A value is a dead end for a segment: it has no parts, or the segment is neither one of
its fields nor a numeral for the place of one of its items. -/
inductive DeadEnd (segment : String) : Value → Prop
  | null : DeadEnd segment .null
  | bool (b : Bool) : DeadEnd segment (.bool b)
  | int (n : Int) : DeadEnd segment (.int n)
  | real (x : Binary64) : DeadEnd segment (.real x)
  | text (s : String) : DeadEnd segment (.text s)
  | absent {fields : List (String × Value)} (hfields : segment ∉ Table.names fields) :
    DeadEnd segment (.object fields)
  | noNumeral {items : List Value} (hnumeral : Numeral.integer? segment = none) :
    DeadEnd segment (.list items)
  | outside {items : List Value} {index : Int} (hnumeral : Numeral.integer? segment = some index)
    (houtside : index < -items.length ∨ items.length ≤ index) : DeadEnd segment (.list items)

/-- Some segments lead nowhere from a value: one of them comes to a dead end. -/
inductive LeadsNowhere : Value → List String → Prop
  | here {v : Value} {segment : String} {rest : List String} (hend : DeadEnd segment v) :
    LeadsNowhere v (segment :: rest)
  | later {v next : Value} {segment : String} {rest : List String}
    (hstep : v.step? segment = some next) (hrest : LeadsNowhere next rest) :
    LeadsNowhere v (segment :: rest)

/-- There is no item at an index outside of a list. -/
theorem item?_eq_none_iff {items : List Value} {index : Int} :
    item? items index = none ↔ index < -items.length ∨ items.length ≤ index := by
  rw [item?]
  split
  · rw [List.getElem?_eq_none_iff]
    omega
  · split
    · rw [List.getElem?_eq_none_iff]
      omega
    · simp only [true_iff]
      omega

/-- A step leads nowhere exactly from dead ends. -/
theorem step?_eq_none_iff {v : Value} {segment : String} :
    v.step? segment = none ↔ DeadEnd segment v := by
  cases v with
  | null => exact iff_of_true rfl .null
  | bool b => exact iff_of_true rfl (.bool b)
  | int n => exact iff_of_true rfl (.int n)
  | real x => exact iff_of_true rfl (.real x)
  | text s => exact iff_of_true rfl (.text s)
  | list items =>
    rw [step?, Option.bind_eq_none_iff]
    constructor
    · intro hnone
      cases hnumeral : Numeral.integer? segment with
      | none => exact .noNumeral hnumeral
      | some index => exact .outside hnumeral (item?_eq_none_iff.1 (hnone index hnumeral))
    · intro hend index hindex
      cases hend with
      | noNumeral hnumeral => cases hnumeral.symm.trans hindex
      | outside hnumeral houtside =>
        cases hnumeral.symm.trans hindex
        exact item?_eq_none_iff.2 houtside
  | object fields =>
    constructor
    · exact fun hnone => .absent (Table.not_mem_names_of_at?_eq_none hnone)
    · intro hend
      cases hend with
      | absent hfields => exact Table.at?_eq_none hfields

/-- A path is followed to no value exactly when it comes to a dead end. -/
theorem follow?_eq_none_iff {v : Value} {segments : List String} :
    v.follow? segments = none ↔ LeadsNowhere v segments := by
  induction segments generalizing v with
  | nil => exact iff_of_false (Option.some_ne_none v) fun hnowhere => nomatch hnowhere
  | cons segment rest ih =>
    rw [follow?]
    constructor
    · intro hnone
      cases hstep : v.step? segment with
      | none => exact .here (step?_eq_none_iff.1 hstep)
      | some next =>
        rw [hstep] at hnone
        exact .later hstep (ih.1 hnone)
    · intro hnowhere
      cases hnowhere with
      | here hend =>
        rw [step?_eq_none_iff.2 hend]
        rfl
      | later hstep hrest =>
        rw [hstep]
        exact ih.2 hrest

/-- A value has parts to which a path may lead: it is an object or a list. -/
def HasParts : Value → Prop
  | .object _ => True
  | .list _ => True
  | _ => False

/-- A value without parts is a dead end for every segment. -/
theorem deadEnd_of_not_hasParts {v : Value} (hparts : ¬ v.HasParts) (segment : String) :
    DeadEnd segment v := by
  cases v with
  | null => exact .null
  | bool b => exact .bool b
  | int n => exact .int n
  | real x => exact .real x
  | text s => exact .text s
  | list items => exact (hparts trivial).elim
  | object fields => exact (hparts trivial).elim

/-- No path leads on from a value without parts. -/
theorem follow?_of_not_hasParts {v : Value} (hparts : ¬ v.HasParts) (path : String) :
    v.follow? (Path.segments path) = none := by
  obtain ⟨segment, rest, hsegments⟩ := List.exists_cons_of_ne_nil (Path.segments_ne_nil path)
  rw [hsegments, follow?_eq_none_iff]
  exact .here (deadEnd_of_not_hasParts hparts segment)

/-- A joined path leads to where its second part leads from the end of the first. -/
theorem follow?_join {first second : String}
    (hlast : ∀ c ∈ first.toList.getLast?, Text.isBlank c = false)
    (hfirst : ∀ c ∈ second.toList.head?, Text.isBlank c = false) (root : Value) :
    root.follow? (Path.segments (first ++ "." ++ second)) =
      (root.follow? (Path.segments first)).bind fun middle =>
        middle.follow? (Path.segments second) := by
  rw [Path.segments_join hlast hfirst, follow?_append]

end Value

/-- **Paths compose.**  Let the first of two paths not end with white space, and the second
not begin with it.  From every value, and from every context of a run, the path with a dot
between the two leads to where the second leads from the end of the first.  It leads nowhere
if the first one does, and also if the first one ends at a value without parts, such as null. -/
theorem paths_compose {first second : String}
    (hlast : ∀ c ∈ first.toList.getLast?, Text.isBlank c = false)
    (hfirst : ∀ c ∈ second.toList.head?, Text.isBlank c = false) :
    let joined := first ++ "." ++ second
    (∀ root : Value, root.follow? (Path.segments joined) =
      (root.follow? (Path.segments first)).bind fun middle =>
        middle.follow? (Path.segments second)) ∧
    (∀ context : Context, context.follow? joined =
      (context.follow? first).bind fun middle => middle.follow? (Path.segments second)) ∧
    ∀ root : Value,
      (∀ middle, root.follow? (Path.segments first) = some middle → ¬ middle.HasParts) →
      root.follow? (Path.segments joined) = none := by
  intro joined
  have hjoined := fun root => Value.follow?_join hlast hfirst root
  refine ⟨hjoined, fun context => hjoined context.value, fun root hend => ?_⟩
  rw [hjoined, Option.bind_eq_none_iff]
  exact fun middle hmiddle => Value.follow?_of_not_hasParts (hend middle hmiddle) second

/-- The first path ends with an empty segment, which is the name of a list, and the second
begins with an index from the end of it.  White space around the whole is dropped.  From the
null that stands before, the same field is not reached. -/
theorem paths_compose_at_empty_name :
    let root : Value := .object
      [("a", .object [("", .list [.null, .object [("b", .int 7)]])])]
    root.follow? (Path.segments ("\ta." ++ "." ++ "-1.b ")) = some (.int 7) ∧
      root.follow? (Path.segments ("a..0" ++ "." ++ "b")) = none := by
  intro root
  obtain ⟨hjoined, -, -⟩ := @paths_compose "\ta." "-1.b " (by simp [Text.isBlank])
    (by simp [Text.isBlank])
  obtain ⟨-, -, hdead⟩ := @paths_compose "a..0" "b" (by simp [Text.isBlank])
    (by simp [Text.isBlank])
  have hlist : root.follow? (Path.segments "\ta.") =
      some (.list [.null, .object [("b", .int 7)]]) := rfl
  have hnull : root.follow? (Path.segments "a..0") = some .null := rfl
  refine ⟨?_, hdead root fun middle hmiddle => ?_⟩
  · rw [hjoined, hlist]
    rfl
  · cases hnull.symm.trans hmiddle
    exact id

end FlowDesk
