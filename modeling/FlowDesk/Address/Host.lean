/-
# Hosts

The host of an address. One that looks like four numbers has to be such an
address of the internet, and one in square brackets has to be one of eight
numbers; any other is a name, which is lowered, and written in ASCII.
-/

import FlowDesk.Address.Label
import FlowDesk.Number.Numeral
import FlowDesk.Text.Percent
import FlowDesk.Text.Quoted
import FlowDesk.Text.Split

namespace FlowDesk.Address

/-- Why a host is refused. -/
inductive HostError where
  | fourNumbers (host : String)
  | eightNumbers (host : String)
  | name (host : String)
  deriving DecidableEq

/-- The sentence that refuses a host. -/
def HostError.message : HostError → String
  | .fourNumbers host => s!"Invalid IPv4 address: {Text.quoted host}"
  | .eightNumbers host => s!"Invalid IPv6 address: {Text.quoted host}"
  | .name host => s!"Invalid IDNA hostname: {Text.quoted host}"

namespace Host

/-- Whether a text looks like four numbers: four runs of digits with any one
character, be it a digit, between each two. -/
def isLikeFourNumbers (host : List Char) : Bool :=
  let runs := Text.split (fun c => !c.isDigit) host
  let inside := runs.foldl (fun total run => total + (run.length - 1) / 2) 0
  runs.all (fun run => !run.isEmpty) && runs.length ≤ 4 && 3 ≤ runs.length - 1 + inside

/-- Whether a text is a number from 0 to 255 without a leading zero. -/
def isByte (cs : List Char) : Bool :=
  !cs.isEmpty && cs.length ≤ 3 && cs.all Char.isDigit && (cs.length = 1 || cs.head? ≠ some '0') &&
    ((Numeral.digits? Text.asciiDigit? cs).any (· ≤ 255))

/-- Whether a text is four numbers with dots between them. -/
def isFourNumbers (host : List Char) : Bool :=
  let parts := Text.split (· = '.') host
  parts.length = 4 && parts.all isByte

/-- Whether a text is a number of up to four hexadecimal digits. -/
def isHexNumber (cs : List Char) : Bool :=
  !cs.isEmpty && cs.length ≤ 4 && cs.all fun c => (Text.hexDigit? c).isSome

/-- The parts between colons, the last one standing for two numbers if it is
four numbers with dots. -/
def hexParts? (cs : List Char) : Option (List (List Char)) :=
  let parts := Text.split (· = ':') cs
  if parts.length < 3 then none
  else match parts.getLast? with
    | some last =>
      if last.contains '.' then
        if isFourNumbers last then some (parts.dropLast ++ [['0'], ['0']]) else none
      else some parts
    | none => none

/-- Whether the parts around a gap are numbers, fewer than eight. A part at
the very end may be empty if it is the only one on its side. -/
def isAroundGap (before after : List (List Char)) : Bool :=
  let side (parts : List (List Char)) : List (List Char) := if parts = [[]] then [] else parts
  let numbers := side before ++ side after
  numbers.length < 8 && numbers.all isHexNumber

/-- Whether a text is eight numbers with colons between them, of which a run
may be left out once. -/
def isEightNumbers (cs : List Char) : Bool :=
  match hexParts? cs with
  | none => false
  | some parts =>
    let inner := (parts.drop 1).dropLast
    match inner.findIdx? List.isEmpty with
    | none => parts.length = 8 && parts.all isHexNumber
    | some index => isAroundGap (parts.take (index + 1)) (parts.drop (index + 2))

/-- Whether a text is eight numbers, and a zone may follow them after a percent
sign. -/
def isEightNumbersInZone (cs : List Char) : Bool :=
  let zone := cs.dropWhile (· ≠ '%')
  isEightNumbers (cs.takeWhile (· ≠ '%')) &&
    (zone.isEmpty || (zone.length ≠ 1 && !(zone.drop 1).contains '%'))

/-- The characters of a name in ASCII that are written as they are. -/
def isPlain (c : Char) : Bool :=
  c.isAlphanum || "-._~!$&\x27()*+,;=\x22`\x7b\x7d%|\\".toList.contains c

/-- Whether a host stands in square brackets. -/
def isBracketed (host : List Char) : Bool :=
  2 ≤ host.length && host.head? = some '[' && host.getLast? = some ']'

/-- The written form of a host, without the brackets around eight numbers. -/
def written (host : List Char) : Except HostError (List Char) :=
  let text := String.ofList host
  if host.isEmpty then .ok []
  else if isLikeFourNumbers host then
    if isFourNumbers host then .ok host else .error (.fourNumbers text)
  else if isBracketed host then
    let inner := (host.drop 1).dropLast
    if isEightNumbersInZone inner then .ok inner else .error (.eightNumbers text)
  else if host.all fun c => c.toNat < 128 then
    .ok (Text.Percent.escape isPlain (host.map Char.toLower))
  else match Label.name? (Text.lower text).toList with
    | some name => .ok name
    | none => .error (.name text)

end Host

end FlowDesk.Address
