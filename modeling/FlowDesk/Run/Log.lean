/-
# Logs

A log keeps the newest notes about one flow. When it is full, the oldest note
makes room and is counted. A log without room can take no note at all, since
there is no oldest one to drop.
-/

import FlowDesk.Run.Event

namespace FlowDesk

/-- A note in a log, with the flow it belongs to. -/
structure Entry where
  flow : String
  note : Note

/-- The newest notes about a flow, and the number of those dropped. -/
structure Log where
  flow : String
  capacity : Int
  entries : List Entry
  dropped : Nat

namespace Log

/-- The capacity of a log unless another one is asked for. -/
def usualCapacity : Int := 500

/-- A log without notes. -/
def empty (flow : String) (capacity : Int) : Log :=
  ⟨flow, capacity, [], 0⟩

/-- Take a note, dropping the oldest one when the log is full; a log without
room takes none. -/
def emit? (log : Log) (note : Note) : Option Log :=
  let entry : Entry := ⟨log.flow, note⟩
  if (log.entries.length : Int) < log.capacity then
    some { log with entries := log.entries ++ [entry] }
  else match log.entries with
    | [] => none
    | _ :: newer => some { log with entries := newer ++ [entry], dropped := log.dropped + 1 }

/-- Take notes one after the other. -/
def emitAll? (log : Log) : List Note → Option Log
  | [] => some log
  | note :: rest => (log.emit? note).bind fun next => next.emitAll? rest

end Log

/-- An entry as data. -/
def Entry.value (entry : Entry) : Value :=
  .object
    [ ("type", .text entry.note.type),
      ("flow_id", .text entry.flow),
      ("step_id", .text entry.note.step),
      ("data", entry.note.data) ]

end FlowDesk
