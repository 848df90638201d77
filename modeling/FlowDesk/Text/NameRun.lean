/-
# Runs of names

Two or three capitalized words in a row look like a person's name. A
capitalized word is an ASCII capital followed by small Latin letters or
apostrophes. The first run of a text is taken; three words rather than two,
and the last word as long as it can be. A run begins and ends where a word
does.
-/

import FlowDesk.Text.Blank
import FlowDesk.Text.Word

namespace FlowDesk.Text.NameRun

/-- A letter after the first one of a capitalized word. -/
def isFollower (c : Char) : Bool :=
  ('a' ≤ c && c ≤ 'z') || ('à' ≤ c && c ≤ 'ÿ') || c = '\x27'

/-- An initial letter of a capitalized word. -/
def isCapital (c : Char) : Bool := 'A' ≤ c && c ≤ 'Z'

/-- The capitalized word with which a text begins, up to its last follower,
and the rest. -/
def wholeWord? : List Char → Option (List Char × List Char)
  | [] => none
  | c :: rest =>
    let followers := rest.takeWhile isFollower
    if isCapital c && !followers.isEmpty then
      some (c :: followers, rest.dropWhile isFollower)
    else none

/-- The longest start of `followers` with at most `count` members that ends
where a word begins or ends. -/
def cutAtBoundary (followers : List Char) : (count : Nat) → Option (List Char)
  | 0 => none
  | count + 1 =>
    if isBoundary followers[count]? followers[count + 1]? then some (followers.take (count + 1))
    else cutAtBoundary followers count

/-- The longest capitalized word with which a text begins and that ends where
a word begins or ends. -/
def lastWord? : List Char → Option (List Char)
  | [] => none
  | c :: rest =>
    if isCapital c then
      (cutAtBoundary rest (rest.takeWhile isFollower).length).map (c :: ·)
    else none

/-- The white space with which a text begins, if there is any, and the rest. -/
def gap? (cs : List Char) : Option (List Char × List Char) :=
  let blanks := cs.takeWhile isBlank
  if blanks.isEmpty then none else some (blanks, cs.dropWhile isBlank)

/-- A further whole word before the last one. -/
def twoMore? (cs : List Char) : Option (List Char) := do
  let (word, rest) ← wholeWord? cs
  let (blanks, rest) ← gap? rest
  let last ← lastWord? rest
  return word ++ blanks ++ last

/-- The run of two or three names with which a text begins. -/
def startingAt? (cs : List Char) : Option (List Char) := do
  let (word, rest) ← wholeWord? cs
  let (blanks, rest) ← gap? rest
  let others ← (twoMore? rest).orElse fun _ => lastWord? rest
  return word ++ blanks ++ others

/-- The first run of names, given the character before the text. -/
def firstFrom? (before : Option Char) : List Char → Option (List Char)
  | [] => none
  | c :: rest =>
    match if isWordAt before then none else startingAt? (c :: rest) with
    | some run => some run
    | none => firstFrom? (some c) rest

/-- The first run of two or three names in a text. -/
def first? (s : String) : Option String :=
  (firstFrom? none s.toList).map String.ofList

end FlowDesk.Text.NameRun
