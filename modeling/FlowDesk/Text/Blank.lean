/-
# Blanks

The white-space characters of the program, and the operations that only
depend on them: trimming both ends of a text and splitting it into words.
-/

namespace FlowDesk.Text

/-- White space: the control characters from tab to carriage return, the four
information separators, the space, next line, and the space separators and
line and paragraph separators of Unicode. -/
def isBlank (c : Char) : Bool :=
  let n := c.toNat
  (0x09 ≤ n && n ≤ 0x0D) || (0x1C ≤ n && n ≤ 0x20) || n = 0x85 || n = 0xA0 || n = 0x1680 ||
    (0x2000 ≤ n && n ≤ 0x200A) || n = 0x2028 || n = 0x2029 || n = 0x202F || n = 0x205F ||
    n = 0x3000

/-- Drop the characters of a class from both ends. -/
def trimBy (drop : Char → Bool) (cs : List Char) : List Char :=
  ((cs.dropWhile drop).reverse.dropWhile drop).reverse

/-- The text without surrounding white space. -/
def trim (s : String) : String :=
  String.ofList (trimBy isBlank s.toList)

/-- The maximal runs of other characters, `current` being the run in progress
in reverse order. -/
def wordsFrom (current : List Char) : List Char → List (List Char)
  | [] => if current.isEmpty then [] else [current.reverse]
  | c :: rest =>
    if isBlank c then
      if current.isEmpty then wordsFrom [] rest else current.reverse :: wordsFrom [] rest
    else wordsFrom (c :: current) rest

/-- The words of a text: its maximal runs without white space. -/
def words (s : String) : List String :=
  (wordsFrom [] s.toList).map String.ofList

/-- The words of a text with one space between them. -/
def respaced (s : String) : String :=
  String.intercalate " " (words s)

/-- Whether a list occurs in another as a run of neighbours. -/
def occursIn (needle : List Char) : List Char → Bool
  | [] => needle.isEmpty
  | c :: rest => needle.isPrefixOf (c :: rest) || occursIn needle rest

/-- Whether a text occurs inside another; the empty text occurs everywhere. -/
def contains (text part : String) : Bool :=
  occursIn part.toList text.toList

end FlowDesk.Text
