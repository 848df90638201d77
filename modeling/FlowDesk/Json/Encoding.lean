/-
# Encoded JSON

A JSON text as bytes. Which of the Unicode encodings it is in shows in its
first bytes: by a byte order mark, or by where zeros stand among them, because
a JSON text begins with ASCII characters. Half of a surrogate pair that stands
alone is read as the replacement character.
-/

import FlowDesk.Json.Reader

namespace FlowDesk.Json

/-- A Unicode encoding. -/
inductive Encoding where
  | utf8
  | utf16 (bigEndian : Bool)
  | utf32 (bigEndian : Bool)
  deriving DecidableEq

namespace Encoding

/-- The encoding that zeros among the first bytes point to. -/
def ofZeros : List UInt8 → Encoding
  | a :: b :: c :: d :: _ =>
    if a = 0 then if b = 0 then .utf32 true else .utf16 true
    else if b = 0 then if c = 0 ∧ d = 0 then .utf32 false else .utf16 false
    else .utf8
  | [a, b] => if a = 0 then .utf16 true else if b = 0 then .utf16 false else .utf8
  | _ => .utf8

/-- The encoding of some bytes, and the bytes after the byte order mark. -/
def detect : List UInt8 → Encoding × List UInt8
  | 0x00 :: 0x00 :: 0xFE :: 0xFF :: rest => (.utf32 true, rest)
  | 0xFF :: 0xFE :: 0x00 :: 0x00 :: rest => (.utf32 false, rest)
  | 0xFE :: 0xFF :: rest => (.utf16 true, rest)
  | 0xFF :: 0xFE :: rest => (.utf16 false, rest)
  | 0xEF :: 0xBB :: 0xBF :: rest => (.utf8, rest)
  | bytes => (ofZeros bytes, bytes)

/-- The six low bits of a byte that continues a character, if it does. -/
def continuation? (byte : UInt8) : Option Nat :=
  if 0x80 ≤ byte ∧ byte < 0xC0 then some (byte.toNat - 0x80) else none

/-- The character numbers of a text in bytes of one to four to a character;
a character takes as few bytes as it can. -/
def fromUtf8? : List UInt8 → Option (List Nat)
  | [] => some []
  | a :: rest =>
    if a < 0x80 then (fromUtf8? rest).map (a.toNat :: ·)
    else match rest with
    | [] => none
    | b :: rest => (continuation? b).bind fun second =>
      if 0xC2 ≤ a ∧ a < 0xE0 then
        (fromUtf8? rest).map (((a.toNat - 0xC0) * 0x40 + second) :: ·)
      else match rest with
      | [] => none
      | c :: rest => (continuation? c).bind fun third =>
        if 0xE0 ≤ a ∧ a < 0xF0 then
          let n := ((a.toNat - 0xE0) * 0x40 + second) * 0x40 + third
          if 0x800 ≤ n then (fromUtf8? rest).map (n :: ·) else none
        else match rest with
        | [] => none
        | d :: rest => (continuation? d).bind fun fourth =>
          let n := (((a.toNat - 0xF0) * 0x40 + second) * 0x40 + third) * 0x40 + fourth
          if 0xF0 ≤ a ∧ 0x10000 ≤ n ∧ n < 0x110000 then (fromUtf8? rest).map (n :: ·) else none

/-- The number in some bytes, the most significant one first. -/
def number (bytes : List UInt8) : Nat :=
  bytes.foldl (fun n byte => n * 0x100 + byte.toNat) 0

/-- The number in some bytes in either order. -/
def numberIn (bigEndian : Bool) (bytes : List UInt8) : Nat :=
  number (if bigEndian then bytes else bytes.reverse)

/-- The units of a text in pairs of bytes. -/
def pairs? (bigEndian : Bool) : List UInt8 → Option (List Nat)
  | [] => some []
  | [_] => none
  | a :: b :: rest => (pairs? bigEndian rest).map (numberIn bigEndian [a, b] :: ·)

/-- Join the halves of surrogate pairs. -/
def joinSurrogates : List Nat → List Nat
  | [] => []
  | [unit] => [unit]
  | high :: low :: rest =>
    if 0xD800 ≤ high ∧ high < 0xDC00 ∧ 0xDC00 ≤ low ∧ low < 0xE000 then
      (0x10000 + (high - 0xD800) * 0x400 + (low - 0xDC00)) :: joinSurrogates rest
    else high :: joinSurrogates (low :: rest)

/-- The character numbers of a text in four bytes to a character. -/
def fromUtf32? (bigEndian : Bool) : List UInt8 → Option (List Nat)
  | [] => some []
  | a :: b :: c :: d :: rest =>
    let n := numberIn bigEndian [a, b, c, d]
    if n < 0x110000 then (fromUtf32? bigEndian rest).map (n :: ·) else none
  | _ => none

/-- The character numbers of a text. -/
def decode? (encoding : Encoding) (bytes : List UInt8) : Option (List Nat) :=
  match encoding with
  | .utf8 => fromUtf8? bytes
  | .utf16 bigEndian => (pairs? bigEndian bytes).map joinSurrogates
  | .utf32 bigEndian => fromUtf32? bigEndian bytes

/-- The character with a number. -/
def character (n : Nat) : Char :=
  if n.isValidChar then Char.ofNat n else Char.ofNat 0xFFFD

end Encoding

/-- Read an encoded JSON text. -/
def ofBytes (bytes : List UInt8) : Except ReadError Value :=
  let (encoding, encoded) := Encoding.detect bytes
  match encoding.decode? encoded with
  | some numbers => ofText (String.ofList (numbers.map Encoding.character))
  | none => .error .malformed

end FlowDesk.Json
