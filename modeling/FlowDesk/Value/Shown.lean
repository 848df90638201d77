/-
# Values as text

The two texts of a value: shown by itself, and quoted inside another value or
a message. They differ only for a text, which stands alone without quotes. The text of
data that was read from a text before, as records and articles are, is made outright
(`shown`); of other data it is found out first whether it can be written (`shown?`).
-/

import FlowDesk.Number.Shortest
import FlowDesk.Text.Quoted
import FlowDesk.Value.Writable

namespace FlowDesk.Value

/-- The quoted text of a value that is neither a list nor an object. -/
def quotedScalar : Value → String
  | .null => "None"
  | .bool true => "True"
  | .bool false => "False"
  | .int n => toString n
  | .real x => x.text
  | .text s => Text.quoted s
  | _ => ""

mutual

/-- The quoted text of a value. -/
def quoted : Value → String
  | .list items => "[" ++ quotedItems items ++ "]"
  | .object fields => "\x7b" ++ quotedFields fields ++ "\x7d"
  | v => quotedScalar v

/-- The quoted texts of items, separated by commas. -/
def quotedItems : List Value → String
  | [] => ""
  | [v] => quoted v
  | v :: rest => quoted v ++ ", " ++ quotedItems rest

/-- The quoted texts of fields, separated by commas. -/
def quotedFields : List (String × Value) → String
  | [] => ""
  | [(name, v)] => Text.quoted name ++ ": " ++ quoted v
  | (name, v) :: rest => Text.quoted name ++ ": " ++ quoted v ++ ", " ++ quotedFields rest

end

/-- The text of a value by itself, of one that can be written. -/
def shown : Value → String
  | .text s => s
  | v => v.quoted

/-- The text of a value by itself, if it can be written. -/
def shown? (v : Value) : Except Obstacle String := v.written .deepShow v.shown

end FlowDesk.Value
