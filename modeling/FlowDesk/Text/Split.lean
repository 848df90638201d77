/-
# Splitting

A text cut at every character of a class. There is always one part more than
there are cuts, and parts may be empty.
-/

namespace FlowDesk.Text

/-- Cut at every character of a class, `current` being the part in progress in
reverse order. -/
def splitFrom (isCut : Char → Bool) (current : List Char) : List Char → List (List Char)
  | [] => [current.reverse]
  | c :: rest =>
    if isCut c then current.reverse :: splitFrom isCut [] rest
    else splitFrom isCut (c :: current) rest

/-- Cut at every character of a class. -/
def split (isCut : Char → Bool) (cs : List Char) : List (List Char) :=
  splitFrom isCut [] cs

/-- The parts of a text between its slashes. -/
def slashParts (s : String) : List String :=
  (split (· = '/') s.toList).map String.ofList

end FlowDesk.Text
