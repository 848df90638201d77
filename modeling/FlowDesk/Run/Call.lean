/-
# Calls of operations

What a run asks of the operations, and what comes back: a value, or a fault.
A fault is an accident inside an operation, in contrast to a result that says
the operation did not succeed.
-/

import FlowDesk.Address.Basic
import FlowDesk.Json.Reader
import FlowDesk.Text.Quoted
import FlowDesk.Value.Writable

namespace FlowDesk

/-- An accident inside an operation. -/
inductive Fault where
  /-- Data of this kind has no such member. -/
  | noMember (kind member : String)
  /-- Data of this kind has no parts. -/
  | noParts (kind : String)
  /-- A range of parts was asked of fields that are found by name. -/
  | namedParts
  /-- Data of this kind holds no items. -/
  | noItems (kind : String)
  /-- Data of this kind is no number. -/
  | noNumber (kind : String)
  /-- This text is no number. -/
  | unreadableNumber (text : String)
  /-- A whole number beyond the range of fractional numbers. -/
  | numberTooLarge
  /-- A date before the first or after the last year of the calendar. -/
  | dateOutOfRange
  /-- Data of this kind cannot be looked up by. -/
  | noKey (kind : String)
  /-- A text of another service is nested too deeply, or no JSON. -/
  | unreadable (error : Json.ReadError)
  /-- The address of another service is none. -/
  | wrongAddress (error : Address.Error)
  /-- The connection to another service failed in this way. -/
  | transport (label message : String)
  /-- Something could not be put into text. -/
  | unwritten (obstacle : Obstacle)
  /-- An accident of any other kind. It has no words when these would have to hold a
  whole number that cannot be written. -/
  | other (label : String) (words : Option String)
  /-- An accident of any kind that ends the run in its own words. -/
  | refusal (label : String) (words : Option String)
  deriving DecidableEq

namespace Fault

/-- The words of a fault, where it has some. -/
def told : Option String → Except Obstacle String
  | some words => .ok words
  | none => .error .longNumber

/-- The sentence that describes a fault. -/
def message : Fault → Except Obstacle String
  | .noMember kind member =>
    .ok ("\x27" ++ kind ++ "\x27 object has no attribute \x27" ++ member ++ "\x27")
  | .noParts kind => .ok ("\x27" ++ kind ++ "\x27 object is not subscriptable")
  | .namedParts => .ok "unhashable type: \x27slice\x27"
  | .noItems kind => .ok ("\x27" ++ kind ++ "\x27 object is not iterable")
  | .noNumber kind =>
    .ok ("float() argument must be a string or a real number, not \x27" ++ kind ++ "\x27")
  | .unreadableNumber text => .ok s!"could not convert string to float: {Text.quoted text}"
  | .numberTooLarge => .ok "int too large to convert to float"
  | .dateOutOfRange => .ok "date value out of range"
  | .noKey kind => .ok ("unhashable type: \x27" ++ kind ++ "\x27")
  | .unreadable error => .ok error.message
  | .wrongAddress error => .ok error.message
  | .transport _ message => .ok message
  | .unwritten obstacle => .ok obstacle.message
  | .other _ words => told words
  | .refusal _ words => told words

end Fault

/-- A request to run an operation for a caller. -/
structure Call where
  operation : String
  args : Value
  caller : Value

/-- What an operation gives back. -/
inductive Answer where
  | value (v : Value)
  | fault (fault : Fault)

/-- What becomes of a call: an answer, which is there after some turns of other
runs, or nothing, ever. -/
inductive Delivery where
  | after (turns : Nat) (answer : Answer)
  | never

namespace Delivery

/-- An answer without delay. -/
def now (answer : Answer) : Delivery := .after 0 answer

/-- The answer, whenever it is there. -/
def answer? : Delivery → Option Answer
  | .after _ answer => some answer
  | .never => none

end Delivery

/-- Whatever runs operations, with a state of its own. -/
abbrev Handler (σ : Type) := Call → σ → Delivery × σ

end FlowDesk
