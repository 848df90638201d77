/-
# Lines

A text file is first brought to one line break, then cut into lines at every
character that ends a line.
-/

namespace FlowDesk.Text

/-- Replace a carriage return, with or without a line feed after it, by a
line feed. -/
def unifyBreaks : List Char → List Char
  | [] => []
  | '\r' :: '\n' :: rest => '\n' :: unifyBreaks rest
  | c :: rest => (if c = '\r' then '\n' else c) :: unifyBreaks rest

/-- The characters that end a line. -/
def isLineBreak (c : Char) : Bool :=
  let n := c.toNat
  (0x0A ≤ n && n ≤ 0x0D) || (0x1C ≤ n && n ≤ 0x1E) || n = 0x85 || n = 0x2028 || n = 0x2029

/-- Cut a text with unified breaks into lines, `current` being the line in
progress in reverse order. A break at the very end starts no further line. -/
def linesFrom (current : List Char) : List Char → List (List Char)
  | [] => if current.isEmpty then [] else [current.reverse]
  | c :: rest =>
    if isLineBreak c then current.reverse :: linesFrom [] rest
    else linesFrom (c :: current) rest

/-- The lines of a text file. -/
def fileLines (s : String) : List String :=
  (linesFrom [] (unifyBreaks s.toList)).map String.ofList

end FlowDesk.Text
