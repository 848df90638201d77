/-
# Finite values

Some numbers are not finite, and JSON has no digits for them. Data that is given
out does not hold any: they become null.
-/

import FlowDesk.Value.Basic

namespace FlowDesk.Value

mutual

/-- The value with every infinite number and every `nan` replaced by null. -/
def finite : Value → Value
  | .real (.nan _) => .null
  | .real (.infinite _) => .null
  | .list items => .list (finiteItems items)
  | .object fields => .object (finiteFields fields)
  | v => v

/-- Items without numbers that have no digits. -/
def finiteItems : List Value → List Value
  | [] => []
  | v :: rest => finite v :: finiteItems rest

/-- Fields without numbers that have no digits. -/
def finiteFields : List (String × Value) → List (String × Value)
  | [] => []
  | (name, v) :: rest => (name, finite v) :: finiteFields rest

end

mutual

/-- Whether every number in a value is finite. -/
def isFinite : Value → Bool
  | .real (.nan _) => false
  | .real (.infinite _) => false
  | .list items => areFiniteItems items
  | .object fields => areFiniteFields fields
  | _ => true

/-- Whether every number in some items is finite. -/
def areFiniteItems : List Value → Bool
  | [] => true
  | v :: rest => isFinite v && areFiniteItems rest

/-- Whether every number in some fields is finite. -/
def areFiniteFields : List (String × Value) → Bool
  | [] => true
  | (_, v) :: rest => isFinite v && areFiniteFields rest

end

end FlowDesk.Value
