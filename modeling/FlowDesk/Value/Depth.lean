/-
# Depth of values

How deeply lists and objects are nested in a value. Data that is given out
must not be nested beyond a fixed number of levels; of data with parts of any
shape, each of these parts is held to it.
-/

import FlowDesk.Value.Basic

namespace FlowDesk.Value

mutual

/-- The number of levels of a value: one, and one more for each list or object
around it. -/
def depth : Value → Nat
  | .list items => itemsDepth items + 1
  | .object fields => fieldsDepth fields + 1
  | _ => 1

/-- The number of levels of the deepest item. -/
def itemsDepth : List Value → Nat
  | [] => 0
  | v :: rest => max (depth v) (itemsDepth rest)

/-- The number of levels of the deepest field. -/
def fieldsDepth : List (String × Value) → Nat
  | [] => 0
  | (_, v) :: rest => max (depth v) (fieldsDepth rest)

end

/-- The number of levels to which data that is given out may be nested. -/
def mostLevels : Nat := 255

/-- Whether a value is not nested too deeply to be given out. -/
def isShallow (v : Value) : Bool := v.depth ≤ mostLevels

/-- The sentence that refuses to give out data. -/
def tooDeepMessage : String := "Maximum serialization depth exceeded"

/-- Some data, to be given out unless one of its free parts is nested too
deeply. -/
def givenOut? (parts : List Value) (whole : Value) : Option Value :=
  if parts.all isShallow then some whole else none

end FlowDesk.Value
