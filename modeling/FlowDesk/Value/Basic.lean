/-
# Values

The data that messages, templates, operations and client files exchange.
Whole numbers and fractional numbers are different values, and an object
keeps its fields in the order in which they were written.
-/

import FlowDesk.Number.Binary64
import FlowDesk.Table

namespace FlowDesk

/-- A piece of data. -/
inductive Value where
  | null
  | bool (b : Bool)
  | int (n : Int)
  | real (x : Binary64)
  | text (s : String)
  | list (items : List Value)
  | object (fields : List (String × Value))

/-- The fields of an object. -/
abbrev Fields := Table Value

namespace Value

instance : Inhabited Value := ⟨.null⟩

/-- The name of a value's kind, as messages spell it. -/
def kindName : Value → String
  | .null => "NoneType"
  | .bool _ => "bool"
  | .int _ => "int"
  | .real _ => "float"
  | .text _ => "str"
  | .list _ => "list"
  | .object _ => "dict"

/-- Whether a value counts as present: not null, false, zero or empty. -/
def truthy : Value → Bool
  | .null => false
  | .bool b => b
  | .int n => n != 0
  | .real x => !x.isZero
  | .text s => s != ""
  | .list items => !items.isEmpty
  | .object fields => !fields.isEmpty

/-- Whether a value is null. -/
def isNull : Value → Bool
  | .null => true
  | _ => false

/-- An optional text, absent as null. -/
def ofText? : Option String → Value
  | some s => .text s
  | none => .null

/-- A list of texts. -/
def ofTexts (texts : List String) : Value :=
  .list (texts.map .text)

/-- A value or null. -/
def ofOption : Option Value → Value
  | some v => v
  | none => .null

end Value

end FlowDesk
