/-
# Lowering a text

Full Unicode lower case. Most characters are lowered one by one; a capital I
with a dot becomes two characters, and a capital sigma takes its final form
at the end of a word.
-/

import FlowDesk.Text.Case.Table

namespace FlowDesk.Text

/-- Whether a code point lies in one of some closed ranges. -/
def inRanges (ranges : List (Nat × Nat)) (c : Char) : Bool :=
  ranges.any fun range => range.1 ≤ c.toNat && c.toNat ≤ range.2

/-- Whether a run of the case table has an entry for this code point. -/
def CaseRun.covers (run : CaseRun) (code : Nat) : Bool :=
  run.first ≤ code && code ≤ run.last && (code - run.first) % run.step == 0

/-- The lower-case form of a single character. -/
def lowerChar (c : Char) : Char :=
  match caseRuns.find? fun run => run.covers c.toNat with
  | some run => Char.ofNat ((c.toNat : Int) + run.offset).toNat
  | none => c

/-- Whether the first character that is not case-ignorable is cased. -/
def meetsCased : List Char → Bool
  | [] => false
  | c :: rest => if inRanges caseIgnorableRanges c then meetsCased rest else inRanges casedRanges c

/-- Whether a sigma between these neighbours ends a word: `before`, read
backwards, meets a cased character and `after` does not. -/
def endsWord (before after : List Char) : Bool :=
  meetsCased before && !meetsCased after

/-- Lower a text, `before` being the characters already passed, last first. -/
def lowerFrom (before : List Char) : List Char → List Char
  | [] => []
  | c :: rest =>
    let lowered :=
      if c = 'Σ' then [if endsWord before rest then 'ς' else 'σ']
      else if c = 'İ' then ['i', Char.ofNat 0x307]
      else [lowerChar c]
    lowered ++ lowerFrom (c :: before) rest

/-- The lower-case form of a text. -/
def lower (s : String) : String :=
  String.ofList (lowerFrom [] s.toList)

end FlowDesk.Text
