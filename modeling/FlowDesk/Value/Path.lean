/-
# Dotted paths

A path walks through objects by field name and through lists by index. A path
that meets a null, a scalar or an absent field before its end leads nowhere.
-/

import FlowDesk.Number.Numeral
import FlowDesk.Text.Split
import FlowDesk.Value.Basic

namespace FlowDesk

/-- The segments of a path. Blanks around the whole path do not count. -/
def Path.segments (path : String) : List String :=
  (Text.split (· = '.') (Text.trimBy Text.isBlank path.toList)).map String.ofList

namespace Value

/-- The item at an index; a negative index counts from the end. -/
def item? (items : List Value) (index : Int) : Option Value :=
  if 0 ≤ index then items[index.toNat]?
  else if -index ≤ items.length then items[(items.length + index).toNat]?
  else none

/-- One step of a path. -/
def step? (v : Value) (segment : String) : Option Value :=
  match v with
  | .object fields => Table.at? fields segment
  | .list items => (Numeral.integer? segment).bind (item? items)
  | _ => none

/-- The value that a path leads to. -/
def follow? (v : Value) : List String → Option Value
  | [] => some v
  | segment :: rest => (v.step? segment).bind fun next => next.follow? rest

@[simp] theorem follow?_nil (v : Value) : v.follow? [] = some v := rfl

/-- A path in two parts is followed part by part. -/
theorem follow?_append (v : Value) (first second : List String) :
    v.follow? (first ++ second) = (v.follow? first).bind fun next => next.follow? second := by
  induction first generalizing v with
  | nil => rfl
  | cons segment rest ih =>
    simp only [List.cons_append, follow?]
    cases v.step? segment with
    | none => rfl
    | some next => exact ih next

end Value

end FlowDesk
