/-
# Text in bytes

The characters of a text that is given in bytes of one to four to a character.
Bytes that are no character are read as replacement characters, one for each
longest run that begins a character and for each byte that begins none.
-/

namespace FlowDesk.Text.Utf8

/-- The character that stands for bytes that are none. -/
def replacement : Char := Char.ofNat 0xFFFD

/-- A character in progress: how many bytes are to come, between which values
the next one has to be, and the number read so far. -/
structure Pending where
  toCome : Nat
  low : UInt8
  high : UInt8
  number : Nat

/-- The character that a byte begins, if it begins one of several bytes. A
character takes as few bytes as it can. -/
def Pending.ofLead? (byte : UInt8) : Option Pending :=
  if 0xC2 ≤ byte ∧ byte < 0xE0 then some ⟨1, 0x80, 0xBF, byte.toNat - 0xC0⟩
  else if 0xE0 ≤ byte ∧ byte < 0xF0 then
    let low : UInt8 := if byte = 0xE0 then 0xA0 else 0x80
    let high : UInt8 := if byte = 0xED then 0x9F else 0xBF
    some ⟨2, low, high, byte.toNat - 0xE0⟩
  else if 0xF0 ≤ byte ∧ byte < 0xF5 then
    let low : UInt8 := if byte = 0xF0 then 0x90 else 0x80
    let high : UInt8 := if byte = 0xF4 then 0x8F else 0xBF
    some ⟨3, low, high, byte.toNat - 0xF0⟩
  else none

/-- Read a byte where a character begins: what it completes and what it leaves
in progress. -/
def start (byte : UInt8) : List Char × Option Pending :=
  if byte < 0x80 then ([Char.ofNat byte.toNat], none)
  else match Pending.ofLead? byte with
    | some pending => ([], some pending)
    | none => ([replacement], none)

/-- Read a byte with a character in progress, or none. -/
def step (pending : Option Pending) (byte : UInt8) : List Char × Option Pending :=
  match pending with
  | none => start byte
  | some pending =>
    if pending.low ≤ byte ∧ byte ≤ pending.high then
      let number := pending.number * 0x40 + (byte.toNat - 0x80)
      if pending.toCome ≤ 1 then ([Char.ofNat number], none)
      else ([], some ⟨pending.toCome - 1, 0x80, 0xBF, number⟩)
    else
      let (completed, next) := start byte
      (replacement :: completed, next)

/-- Read bytes with a character in progress, or none. -/
def decodeFrom (pending : Option Pending) : List UInt8 → List Char
  | [] => if pending.isSome then [replacement] else []
  | byte :: rest =>
    let (completed, next) := step pending byte
    completed ++ decodeFrom next rest

/-- The characters of a text in bytes. -/
def decode (bytes : List UInt8) : List Char := decodeFrom none bytes

/-- The bytes of a text. -/
def encode (cs : List Char) : List UInt8 :=
  (String.ofList cs).toUTF8.toList

end FlowDesk.Text.Utf8
