/-
# Labels of host names

The labels of an internationalized host name, the parts between its dots. A
label with letters outside ASCII is written in ASCII behind a mark. Not every
character may stand in a label, and labels and whole names have a greatest
length.
-/

import FlowDesk.Address.Label.Joined
import FlowDesk.Address.Label.Table
import FlowDesk.Address.Punycode
import FlowDesk.Text.Case
import FlowDesk.Text.Split

namespace FlowDesk.Address.Label

/-- What stands before a label that is written in ASCII. -/
def mark : List Char := ['x', 'n', '-', '-']

/-- The greatest length of a label. -/
def mostLetters : Nat := 63

/-- The greatest length of a name. -/
def longestName : Nat := 253

/-- Whether a character may stand in a label. -/
def isLetter (c : Char) : Bool :=
  letterRuns.any fun run => run.covers c.toNat

/-- Marks that are set on the letter before them. -/
def joiningRanges : List (Nat × Nat) :=
  [ (0x300, 0x36F), (0x483, 0x487), (0x591, 0x5BD), (0x610, 0x61A), (0x64B, 0x65F),
    (0x6D6, 0x6DC), (0x93A, 0x93C), (0x93E, 0x94F), (0x1AB0, 0x1AFF), (0x1DC0, 0x1DFF),
    (0x20D0, 0x20FF), (0x302A, 0x302F), (0x3099, 0x309A), (0xFE20, 0xFE2F) ]

/-- Whether a label has no hyphen at its ends nor two of them after its second
letter, does not begin with a mark for the letter before, and holds the joint
forms of letters and marks. -/
def isWellBuilt (label : List Char) : Bool :=
  label.head? ≠ some '-' && label.getLast? ≠ some '-' &&
    !(['-', '-'].isPrefixOf (label.drop 2)) &&
    !(label.head?.any (Text.inRanges joiningRanges)) && isComposed label

/-- The written form of a label, if it is one. A label in ASCII that bears the
mark is taken to be written already. -/
def written? (label : List Char) : Option (List Char) :=
  let form :=
    if mark.isPrefixOf label then
      if label.length = mark.length || label.getLast? = some '-' then none else some label
    else if !isWellBuilt label then none
    else if label.all fun c => c.toNat < 128 then some label
    else some (mark ++ Punycode.encode label)
  if label.isEmpty || !label.all isLetter then none
  else form.filter fun cs => cs.length ≤ mostLetters

/-- The dots between labels. -/
def isDot (c : Char) : Bool :=
  c = '.' || c = Char.ofNat 0x3002 || c = Char.ofNat 0xFF0E || c = Char.ofNat 0xFF61

/-- The written form of the labels of a name; the last one may be empty. -/
def writtenAll? : List (List Char) → Option (List (List Char))
  | [] => some []
  | [[]] => some [[]]
  | label :: rest => (written? label).bind fun first =>
    (writtenAll? rest).map fun others => first :: others

/-- The written form of an internationalized host name in lower case. -/
def name? (host : List Char) : Option (List Char) :=
  match writtenAll? (Text.split isDot host) with
  | none => none
  | some [[]] => none
  | some labels =>
    let name := ['.'].intercalate labels
    let length := if name.getLast? = some '.' then name.length - 1 else name.length
    if length ≤ longestName then some name else none

end FlowDesk.Address.Label
