/-
# Writing JSON

A value as JSON text, on one line or indented. Characters outside ASCII are
written as they are; only the quote, the backslash and the control characters
are escaped. Numbers that JSON has no digits for are written by name, and a value
with a whole number that is too long has no JSON text.
-/

import FlowDesk.Number.Shortest
import FlowDesk.Text.Quoted
import FlowDesk.Value.Writable

namespace FlowDesk.Json

/-- The form of a character inside a JSON string. -/
def escapeChar (c : Char) : List Char :=
  if c = '\x22' then ['\\', '\x22']
  else if c = '\\' then ['\\', '\\']
  else if c = '\n' then ['\\', 'n']
  else if c = '\r' then ['\\', 'r']
  else if c = '\t' then ['\\', 't']
  else if c = '\x0c' then ['\\', 'f']
  else if c = '\x08' then ['\\', 'b']
  else if c.toNat < 0x20 then '\\' :: 'u' :: Text.hexDigits 4 c.toNat
  else [c]

/-- A JSON string. -/
def writeString (s : String) : List Char :=
  '\x22' :: s.toList.flatMap escapeChar ++ ['\x22']

/-- A JSON number, or the name of a number without digits. -/
def writeReal : Binary64 → List Char
  | .nan _ => ['N', 'a', 'N']
  | .infinite false => ['I', 'n', 'f', 'i', 'n', 'i', 't', 'y']
  | .infinite true => ['-', 'I', 'n', 'f', 'i', 'n', 'i', 't', 'y']
  | x => x.text.toList

/-- A whole number in decimal. -/
def writeInt (n : Int) : List Char :=
  let digits := Nat.toDigits 10 n.natAbs
  if n < 0 then '-' :: digits else digits

/-- A value that is neither a list nor an object. -/
def writeScalar : Value → List Char
  | .null => ['n', 'u', 'l', 'l']
  | .bool true => ['t', 'r', 'u', 'e']
  | .bool false => ['f', 'a', 'l', 's', 'e']
  | .int n => writeInt n
  | .real x => writeReal x
  | .text s => writeString s
  | _ => []

mutual

/-- A value on one line, with a gap after each comma and colon. -/
def write (gap : List Char) : Value → List Char
  | .list items => '[' :: writeItems gap items ++ [']']
  | .object fields => '\x7b' :: writeFields gap fields ++ ['\x7d']
  | v => writeScalar v

/-- Items with commas between them. -/
def writeItems (gap : List Char) : List Value → List Char
  | [] => []
  | [v] => write gap v
  | v :: rest => write gap v ++ ',' :: gap ++ writeItems gap rest

/-- Fields with commas between them. -/
def writeFields (gap : List Char) : List (String × Value) → List Char
  | [] => []
  | [(name, v)] => writeString name ++ ':' :: gap ++ write gap v
  | (name, v) :: rest =>
    writeString name ++ ':' :: gap ++ write gap v ++ ',' :: gap ++ writeFields gap rest

end

/-- A line break and two spaces for each level. -/
def newLine (level : Nat) : List Char :=
  '\n' :: List.replicate (2 * level) ' '

mutual

/-- A value with one item or field to a line, at a level of indentation. -/
def indent (level : Nat) : Value → List Char
  | .list [] => ['[', ']']
  | .list items =>
    '[' :: newLine (level + 1) ++ indentItems (level + 1) items ++ newLine level ++ [']']
  | .object [] => ['\x7b', '\x7d']
  | .object fields =>
    '\x7b' :: newLine (level + 1) ++ indentFields (level + 1) fields ++ newLine level ++ ['\x7d']
  | v => writeScalar v

/-- Items, each on its own line. -/
def indentItems (level : Nat) : List Value → List Char
  | [] => []
  | [v] => indent level v
  | v :: rest => indent level v ++ ',' :: newLine level ++ indentItems level rest

/-- Fields, each on its own line. -/
def indentFields (level : Nat) : List (String × Value) → List Char
  | [] => []
  | [(name, v)] => writeString name ++ ':' :: ' ' :: indent level v
  | (name, v) :: rest =>
    writeString name ++ ':' :: ' ' :: indent level v ++
      ',' :: newLine level ++ indentFields level rest

end

/-- The JSON text of a value on one line. -/
def text (v : Value) : String := String.ofList (write [' '] v)

/-- The JSON text of a value on one line without blanks. -/
def compactText (v : Value) : String := String.ofList (write [] v)

/-- The indented JSON text of a value. -/
def indentedText (v : Value) : String := String.ofList (indent 0 v)

/-- The JSON text of a value on one line, if the value can be written. -/
def text? (v : Value) : Except Obstacle String := v.written .deepData (text v)

/-- The indented JSON text of a value, if the value can be written. -/
def indentedText? (v : Value) : Except Obstacle String := v.written .deepData (indentedText v)

end FlowDesk.Json
