/-
# Percent escapes

In an address, a character that must not be written as it is is written as its
bytes, each a percent sign and two hexadecimal digits. A percent sign without
two digits after it stands for itself.
-/

import FlowDesk.Text.Digit
import FlowDesk.Text.Utf8

namespace FlowDesk.Text.Percent

/-- A capital hexadecimal digit. -/
def hexDigit (n : Nat) : Char :=
  if n < 10 then Char.ofNat (48 + n) else Char.ofNat (55 + n)

/-- The escape of a byte. -/
def escapeByte (byte : UInt8) : List Char :=
  ['%', hexDigit (byte.toNat / 16), hexDigit (byte.toNat % 16)]

/-- A text with every character escaped but those to keep. -/
def escape (keep : Char → Bool) (cs : List Char) : List Char :=
  cs.flatMap fun c => if keep c then [c] else (Utf8.encode [c]).flatMap escapeByte

/-- The bytes of a text with its escapes resolved. -/
def unescapeBytes : List UInt8 → List UInt8
  | [] => []
  | 0x25 :: a :: b :: rest =>
    match hexDigit? (Char.ofNat a.toNat), hexDigit? (Char.ofNat b.toNat) with
    | some high, some low => UInt8.ofNat (16 * high + low) :: unescapeBytes rest
    | _, _ => 0x25 :: unescapeBytes (a :: b :: rest)
  | byte :: rest => byte :: unescapeBytes rest

/-- A text with its escapes resolved. -/
def unescape (s : String) : String :=
  String.ofList (Utf8.decode (unescapeBytes s.toUTF8.toList))

end FlowDesk.Text.Percent
