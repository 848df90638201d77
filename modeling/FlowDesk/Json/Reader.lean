/-
# Reading JSON

The reader accepts JSON with the three names of numbers that have no digits.
A number with a fraction or an exponent is fractional, any other is whole.
Of fields with the same name the last value counts, at the place of the
first. A text is refused where it stops being JSON, and also for a whole number
with too many digits or for nesting too deep, whichever comes first.
-/

import FlowDesk.Number.Numeral
import FlowDesk.Value.Basic

namespace FlowDesk.Json

/-- Why a text cannot be read. -/
inductive ReadError where
  /-- The text is no JSON. -/
  | malformed
  /-- A whole number has this many digits. -/
  | longNumber (digits : Nat)
  /-- A list is nested too deeply. -/
  | deepList
  /-- An object is nested too deeply. -/
  | deepObject
  deriving DecidableEq

/-- The sentence that says why a text cannot be read. -/
def ReadError.message : ReadError → String
  | .malformed => "the text is no JSON"
  | .longNumber digits =>
    s!"Exceeds the limit ({Numeral.mostDigits} digits) for integer string conversion: " ++
      s!"value has {digits} digits; use sys.set_int_max_str_digits() to increase the limit"
  | .deepList =>
    "maximum recursion depth exceeded while decoding a JSON array from a unicode string"
  | .deepObject =>
    "maximum recursion depth exceeded while decoding a JSON object from a unicode string"

/-- What was read, if the text is JSON so far. -/
def orMalformed {α : Type} : Option α → Except ReadError α
  | some result => .ok result
  | none => .error .malformed

/-- The number of levels to which lists and objects may be nested. -/
def mostLevels : Nat := 980

/-- White space between JSON tokens. -/
def isSpace (c : Char) : Bool :=
  c = ' ' || c = '\t' || c = '\n' || c = '\r'

/-- Drop white space. -/
def skipSpace (cs : List Char) : List Char :=
  cs.dropWhile isSpace

/-- The code unit of four hexadecimal digits. -/
def codeUnit? (a b c d : Char) : Option Nat := do
  let a ← Text.hexDigit? a
  let b ← Text.hexDigit? b
  let c ← Text.hexDigit? c
  let d ← Text.hexDigit? d
  return ((a * 16 + b) * 16 + c) * 16 + d

/-- The first unit of a surrogate pair. -/
def isHighUnit (n : Nat) : Bool := 0xD800 ≤ n && n ≤ 0xDBFF

/-- The second unit of a surrogate pair. -/
def isLowUnit (n : Nat) : Bool := 0xDC00 ≤ n && n ≤ 0xDFFF

/-- The character of a surrogate pair. -/
def pairChar (high low : Nat) : Char :=
  Char.ofNat (0x10000 + (high - 0xD800) * 0x400 + (low - 0xDC00))

/-- The character of one code unit; half of a pair stands for no character. -/
def unitChar (n : Nat) : Char :=
  if isHighUnit n || isLowUnit n then Char.ofNat 0xFFFD else Char.ofNat n

/-- The character that a short escape stands for. -/
def shortEscape? (c : Char) : Option Char :=
  if c = '\x22' || c = '\\' || c = '/' then some c
  else if c = 'n' then some '\n'
  else if c = 'r' then some '\r'
  else if c = 't' then some '\t'
  else if c = 'f' then some '\x0c'
  else if c = 'b' then some '\x08'
  else none

/-- Put a character before the text that was read. -/
def prepend (c : Char) (read : Option (List Char × List Char)) :
    Option (List Char × List Char) :=
  read.map fun result => (c :: result.1, result.2)

/-- Read the rest of a string, up to its closing quote. -/
def readString : List Char → Option (List Char × List Char)
  | [] => none
  | '\x22' :: rest => some ([], rest)
  | '\\' :: 'u' :: a :: b :: c :: d :: rest =>
    match codeUnit? a b c d with
    | none => none
    | some unit =>
      match rest with
      | '\\' :: 'u' :: e :: f :: g :: h :: after =>
        match codeUnit? e f g h with
        | some low =>
          if isHighUnit unit && isLowUnit low then prepend (pairChar unit low) (readString after)
          else prepend (unitChar unit) (readString ('\\' :: 'u' :: e :: f :: g :: h :: after))
        | none => none
      | rest => prepend (unitChar unit) (readString rest)
  | '\\' :: c :: rest =>
    match shortEscape? c with
    | some character => prepend character (readString rest)
    | none => none
  | c :: rest => if c.toNat < 0x20 then none else prepend c (readString rest)

/-- The whole part of a number: one zero, or digits that start with another. -/
def readWhole : List Char → Option (List Char × List Char)
  | '0' :: rest => some (['0'], rest)
  | c :: rest =>
    if c.isDigit then some (c :: rest.takeWhile Char.isDigit, rest.dropWhile Char.isDigit)
    else none
  | [] => none

/-- The digits after a point; a point without digits is not part of a number. -/
def readFraction : List Char → Option (List Char) × List Char
  | '.' :: rest =>
    let digits := rest.takeWhile Char.isDigit
    if digits.isEmpty then (none, '.' :: rest) else (some digits, rest.dropWhile Char.isDigit)
  | rest => (none, rest)

/-- The exponent of a number; a mark without digits is not part of it. -/
def readExponent (cs : List Char) : Option Int × List Char :=
  match cs with
  | c :: rest =>
    if c = 'e' || c = 'E' then
      let (negative, body) := Numeral.sign rest
      let digits := body.takeWhile Char.isDigit
      match Numeral.digits? Text.asciiDigit? digits with
      | some magnitude => (some (Numeral.signed negative magnitude), body.dropWhile Char.isDigit)
      | none => (none, cs)
    else (none, cs)
  | [] => (none, cs)

/-- The value of a run of ASCII digits. -/
def digitsValue (digits : List Char) : Nat :=
  digits.foldl (fun total c => 10 * total + (c.toNat - 48)) 0

/-- Read a number whose sign has been read. -/
def readNumber (negative : Bool) (cs : List Char) : Except ReadError (Value × List Char) :=
  match readWhole cs with
  | none => .error .malformed
  | some (whole, afterWhole) =>
    let (fraction, afterFraction) := readFraction afterWhole
    let (exponent, rest) := readExponent afterFraction
    match fraction, exponent with
    | none, none =>
      if Numeral.mostDigits < whole.length then .error (.longNumber whole.length)
      else .ok (.int (Numeral.signed negative (digitsValue whole)), rest)
    | _, _ =>
      let digits := whole ++ fraction.getD []
      let scale := exponent.getD 0 - (fraction.getD []).length
      .ok (.real (Binary64.ofDecimal negative (digitsValue digits) scale), rest)

/-- The rest of a text after an expected beginning. -/
def after? (expected cs : List Char) : Option (List Char) :=
  if expected.isPrefixOf cs then some (cs.drop expected.length) else none

/-- Read a value that is a bare word, or a number. -/
def readPlain (cs : List Char) : Except ReadError (Value × List Char) :=
  let word (expected : String) (v : Value) : Except ReadError (Value × List Char) :=
    orMalformed ((after? expected.toList cs).map (v, ·))
  match cs with
  | 'n' :: _ => word "null" .null
  | 't' :: _ => word "true" (.bool true)
  | 'f' :: _ => word "false" (.bool false)
  | 'N' :: _ => word "NaN" (.real (.nan true))
  | 'I' :: _ => word "Infinity" (.real (.infinite false))
  | '-' :: 'I' :: _ => word "-Infinity" (.real (.infinite true))
  | '-' :: rest => readNumber true rest
  | cs => readNumber false cs

mutual

/-- Read one value, nested to at most `levels` levels. The number of values
and separators to read is bounded by `count`. -/
def readValue (levels : Nat) : Nat → List Char → Except ReadError (Value × List Char)
  | 0, _ => .error .malformed
  | count + 1, cs =>
    match cs with
    | '\x22' :: rest => do
      let (s, after) ← orMalformed (readString rest)
      return (.text (String.ofList s), after)
    | '[' :: rest =>
      if levels = 0 then .error .deepList
      else match skipSpace rest with
        | ']' :: after => .ok (.list [], after)
        | start => do
          let (items, after) ← readItems (levels - 1) count start
          return (.list items, after)
    | '\x7b' :: rest =>
      if levels = 0 then .error .deepObject
      else match skipSpace rest with
        | '\x7d' :: after => .ok (.object [], after)
        | start => do
          let (fields, after) ← readFields (levels - 1) count start
          return (.object (Table.ofEntries fields), after)
    | cs => readPlain cs

/-- Read items up to the closing bracket. -/
def readItems (levels : Nat) : Nat → List Char → Except ReadError (List Value × List Char)
  | 0, _ => .error .malformed
  | count + 1, cs => do
    let (v, after) ← readValue levels count cs
    match skipSpace after with
    | ']' :: rest => return ([v], rest)
    | ',' :: rest => do
      let (items, final) ← readItems levels count (skipSpace rest)
      return (v :: items, final)
    | _ => .error .malformed

/-- Read fields up to the closing brace. -/
def readFields (levels : Nat) :
    Nat → List Char → Except ReadError (List (String × Value) × List Char)
  | 0, _ => .error .malformed
  | count + 1, cs =>
    match cs with
    | '\x22' :: rest => do
      let (name, afterName) ← orMalformed (readString rest)
      match skipSpace afterName with
      | ':' :: afterColon => do
        let (v, after) ← readValue levels count (skipSpace afterColon)
        match skipSpace after with
        | '\x7d' :: final => return ([(String.ofList name, v)], final)
        | ',' :: more => do
          let (fields, final) ← readFields levels count (skipSpace more)
          return ((String.ofList name, v) :: fields, final)
        | _ => .error .malformed
      | _ => .error .malformed
    | _ => .error .malformed

end

/-- Read a text that holds one value and nothing else. -/
def ofText (s : String) : Except ReadError Value :=
  let cs := s.toList
  match readValue mostLevels (cs.length + 1) (skipSpace cs) with
  | .ok (v, rest) => if (skipSpace rest).isEmpty then .ok v else .error .malformed
  | .error error => .error error

/-- Whether a text is JSON as far as it is read. -/
def isJson (s : String) : Bool :=
  match ofText s with
  | .error .malformed => false
  | _ => true

end FlowDesk.Json
