/-
# Values that can be written

Whole numbers may be of any size and data may be nested to any depth, but only so many
digits and so many levels are written.  A value that holds a longer number, or that is
nested more deeply, has no text of any kind; so whatever puts values into text may meet
an obstacle, and says which one it met first.
-/

import FlowDesk.Number.Numeral
import FlowDesk.Value.Basic

namespace FlowDesk

/-- What keeps data from being put into text. -/
inductive Obstacle where
  /-- A whole number has too many digits. -/
  | longNumber
  /-- Data to be written as JSON is nested too deeply. -/
  | deepData
  /-- A value to be shown is nested too deeply. -/
  | deepShow
  /-- A list of a template stands too deep in it. -/
  | deepList
  /-- An object of a template stands too deep in it. -/
  | deepObject
  deriving DecidableEq

/-- The sentence that describes an obstacle. -/
def Obstacle.message : Obstacle → String
  | .longNumber =>
    s!"Exceeds the limit ({Numeral.mostDigits} digits) for integer string conversion; " ++
      "use sys.set_int_max_str_digits() to increase the limit"
  | .deepData => "maximum recursion depth exceeded while encoding a JSON object"
  | .deepShow => "maximum recursion depth exceeded while getting the repr of an object"
  | .deepList => "maximum recursion depth exceeded"
  | .deepObject => "maximum recursion depth exceeded in comparison"

namespace Value

mutual

/-- The whole numbers in a value, in the order in which they are written. -/
def wholes : Value → List Int
  | .int n => [n]
  | .list items => itemsWholes items
  | .object fields => fieldsWholes fields
  | _ => []

/-- The whole numbers in some items. -/
def itemsWholes : List Value → List Int
  | [] => []
  | v :: rest => wholes v ++ itemsWholes rest

/-- The whole numbers in some fields. -/
def fieldsWholes : List (String × Value) → List Int
  | [] => []
  | (_, v) :: rest => wholes v ++ fieldsWholes rest

end

mutual

/-- The number of levels of lists and objects in a value. -/
def nesting : Value → Nat
  | .list items => itemsNesting items + 1
  | .object fields => fieldsNesting fields + 1
  | _ => 0

/-- The number of levels in the deepest item. -/
def itemsNesting : List Value → Nat
  | [] => 0
  | v :: rest => max (nesting v) (itemsNesting rest)

/-- The number of levels in the deepest field. -/
def fieldsNesting : List (String × Value) → Nat
  | [] => 0
  | (_, v) :: rest => max (nesting v) (fieldsNesting rest)

end

/-- The number of levels to which a value can be written. -/
def mostWrittenLevels : Nat := 940

/-- Whether every whole number in a value is short enough to be written. -/
def hasShortWholes (v : Value) : Bool := v.wholes.all fun n => !Numeral.isLong n

/-- Whether a value can be written. -/
def isWritable (v : Value) : Bool := decide (v.nesting ≤ mostWrittenLevels) && v.hasShortWholes

mutual

/-- What keeps a value from being written with room for some levels: the first obstacle
on the way through it, `deep` standing for a level too many. -/
def obstacle? (deep : Obstacle) : Nat → Value → Option Obstacle
  | _, .int n => if Numeral.isLong n then some .longNumber else none
  | 0, .list _ => some deep
  | 0, .object _ => some deep
  | room + 1, .list items => itemsObstacle? deep room items
  | room + 1, .object fields => fieldsObstacle? deep room fields
  | _, _ => none

/-- The first obstacle among items. -/
def itemsObstacle? (deep : Obstacle) (room : Nat) : List Value → Option Obstacle
  | [] => none
  | v :: rest => (obstacle? deep room v).or (itemsObstacle? deep room rest)

/-- The first obstacle among fields. -/
def fieldsObstacle? (deep : Obstacle) (room : Nat) : List (String × Value) → Option Obstacle
  | [] => none
  | (_, v) :: rest => (obstacle? deep room v).or (fieldsObstacle? deep room rest)

end

/-- The text that is made of a value, if the value can be written. -/
def written (deep : Obstacle) (v : Value) (text : String) : Except Obstacle String :=
  match v.obstacle? deep mostWrittenLevels with
  | none => .ok text
  | some obstacle => .error obstacle

end Value

end FlowDesk
