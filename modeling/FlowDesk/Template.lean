/-
# Templates

A template is a text with slots. Each slot names a path into the variables;
when the path leads to a value that is not null, the rendered value takes the
place of the slot, and otherwise the slot stays as it was written. The text
is read once from left to right: what a slot brings in is not read again.

A template cannot be filled in when a slot would bring in a value that cannot be
written, or when lists and objects are nested in it too deeply. The first such
obstacle on the way through the template is the one that is reported.
-/

import FlowDesk.Json.Writer
import FlowDesk.Value.Path
import FlowDesk.Value.Shown

namespace FlowDesk

namespace Template

/-- A piece of a template: one character, or a slot with the text inside it. -/
inductive Piece where
  | literal (c : Char)
  | slot (path : List Char)
  deriving DecidableEq

/-- How far the reading of a slot has come. -/
inductive Reading where
  | outside
  | dollar
  | inside (reversed : List Char)

/-- The text of a slot's beginning that turned out to be no slot. -/
def unfinished (reversed : List Char) : List Piece :=
  ('$' :: '\x7b' :: reversed.reverse).map .literal

/-- Read pieces from left to right. A slot opens with a dollar sign and a
brace, closes at the next brace and is not empty. -/
def piecesFrom : Reading → List Char → List Piece
  | .outside, [] => []
  | .outside, c :: rest =>
    if c = '$' then piecesFrom .dollar rest else .literal c :: piecesFrom .outside rest
  | .dollar, [] => [.literal '$']
  | .dollar, c :: rest =>
    if c = '\x7b' then piecesFrom (.inside []) rest
    else if c = '$' then .literal '$' :: piecesFrom .dollar rest
    else .literal '$' :: .literal c :: piecesFrom .outside rest
  | .inside reversed, [] => unfinished reversed
  | .inside reversed, c :: rest =>
    if c = '\x7d' then
      (if reversed.isEmpty then unfinished ['\x7d'] else [.slot reversed.reverse]) ++
        piecesFrom .outside rest
    else piecesFrom (.inside (c :: reversed)) rest

/-- The pieces of a template. -/
def pieces (template : String) : List Piece :=
  piecesFrom .outside template.toList

end Template

/-- The text that a value brings into a template, if it can be written. -/
def Value.rendered? : Value → Except Obstacle String
  | .bool true => .ok "true"
  | .bool false => .ok "false"
  | .real x => match x.toInt? with
    | some n => .ok (toString n)
    | none => .ok x.text
  | v@(.list _) => Json.text? v
  | v@(.object _) => Json.text? v
  | v => v.shown?

namespace Template

/-- The value of a slot, if its path leads to one that is not null. -/
def slotValue? (bindings : Fields) (path : List Char) : Option Value :=
  match (Value.object bindings).follow? (Path.segments (String.ofList path)) with
  | some .null => none
  | found => found

/-- The text of a piece. -/
def Piece.expand (bindings : Fields) : Piece → Except Obstacle (List Char)
  | .literal c => .ok [c]
  | .slot path =>
    match slotValue? bindings path with
    | some v => v.rendered?.map String.toList
    | none => .ok ('$' :: '\x7b' :: path ++ ['\x7d'])

/-- The text of pieces, one after the other. -/
def expandPieces (bindings : Fields) : List Piece → Except Obstacle (List Char)
  | [] => .ok []
  | piece :: rest => do
    let first ← piece.expand bindings
    let others ← expandPieces bindings rest
    return first ++ others

/-- A template text with its slots filled. -/
def expandText (bindings : Fields) (template : String) : Except Obstacle String :=
  (expandPieces bindings (pieces template)).map String.ofList

mutual

/-- A template of any shape, with room for some levels of lists and objects: texts
are expanded wherever they stand, and everything else keeps its place. -/
def expand (bindings : Fields) : Nat → Value → Except Obstacle Value
  | _, .text template => (expandText bindings template).map .text
  | 0, .list _ => .error .deepList
  | 0, .object _ => .error .deepObject
  | room + 1, .list items => (expandItems bindings room items).map .list
  | room + 1, .object fields => (expandFields bindings room fields).map .object
  | _, v => .ok v

/-- Expand items one by one. -/
def expandItems (bindings : Fields) (room : Nat) : List Value → Except Obstacle (List Value)
  | [] => .ok []
  | v :: rest => do
    let first ← expand bindings room v
    let others ← expandItems bindings room rest
    return first :: others

/-- Expand the values of fields; names are not templates. -/
def expandFields (bindings : Fields) (room : Nat) :
    List (String × Value) → Except Obstacle (List (String × Value))
  | [] => .ok []
  | (name, v) :: rest => do
    let first ← expand bindings room v
    let others ← expandFields bindings room rest
    return (name, first) :: others

end

/-- The number of levels of lists and objects to which a template can be filled in. -/
def mostLevels : Nat := 480

/-- A template of any shape with its slots filled. -/
def fill (bindings : Fields) (template : Value) : Except Obstacle Value :=
  expand bindings mostLevels template

end Template

end FlowDesk
