/-
# Punycode

A word with letters outside ASCII, written in ASCII letters and digits. The
ASCII letters come first. The others follow in the order of their numbers,
each as the distance from the one before: the number of letters and places
passed over on the way. Distances are written in digits whose weights adapt to
the distances so far.
-/

namespace FlowDesk.Address.Punycode

/-- The digit of a value below 36: the letters, then the ten digits. -/
def digit (value : Nat) : Char :=
  if value < 26 then Char.ofNat (97 + value) else Char.ofNat (22 + value)

/-- The least value with which a digit is not the last of its distance. -/
def threshold (place bias : Nat) : Nat :=
  min 26 (max 1 (place - bias))

theorem threshold_pos (place bias : Nat) : 0 < threshold place bias := by
  unfold threshold; omega

/-- The digits of a distance from a place on, the least weight first. -/
def distanceDigits (bias place distance : Nat) : List Char :=
  let least := threshold place bias
  if distance < least then [digit distance]
  else digit (least + (distance - least) % (36 - least)) ::
    distanceDigits bias (place + 36) ((distance - least) / (36 - least))
termination_by distance
decreasing_by
  have hpos := threshold_pos place bias
  have hle := Nat.div_le_self (distance - threshold place bias) (36 - threshold place bias)
  omega

/-- Divide a distance until it is small, counting the places this takes. -/
def damp (distance places : Nat) : Nat × Nat :=
  if 455 < distance then damp (distance / 35) (places + 36) else (distance, places)
termination_by distance
decreasing_by exact Nat.div_lt_self (by omega) (by omega)

/-- The weights after a distance, with so many letters written. -/
def adapt (distance written : Nat) (isFirst : Bool) : Nat :=
  let start := if isFirst then distance / 700 else distance / 2
  let (rest, places) := damp (start + start / written) 0
  places + 36 * rest / (rest + 38)

/-- What has been written, and the distance since. -/
structure State where
  output : List Char
  written : Nat
  bias : Nat
  distance : Nat

/-- Pass over one letter of the word while letters of a number are written. -/
def pass (basic number : Nat) (state : State) (letter : Nat) : State :=
  if letter < number then { state with distance := state.distance + 1 }
  else if letter = number then
    { output := state.output ++ distanceDigits state.bias 36 state.distance
      written := state.written + 1
      bias := adapt state.distance (state.written + 1) (state.written == basic)
      distance := 0 }
  else state

/-- Write the letters of each of some numbers, in ascending order, `next`
being the number after the last one. -/
def encodeNumbers (word : List Nat) (basic : Nat) : List Nat → Nat → State → State
  | [], _, state => state
  | number :: rest, next, state =>
    let reached : State :=
      { state with distance := state.distance + (number - next) * (state.written + 1) }
    let done := word.foldl (pass basic number) reached
    encodeNumbers word basic rest (number + 1) { done with distance := done.distance + 1 }

/-- Put a number at its place among ascending numbers, unless it is there. -/
def insert (number : Nat) : List Nat → List Nat
  | [] => [number]
  | other :: rest =>
    if number < other then number :: other :: rest
    else if number = other then other :: rest
    else other :: insert number rest

/-- A word in ASCII letters and digits. -/
def encode (word : List Char) : List Char :=
  let basic := word.filter fun c => c.toNat < 128
  let numbers := word.map Char.toNat
  let others := (numbers.filter fun n => 128 ≤ n).foldr insert []
  let state := encodeNumbers numbers basic.length others 128 ⟨[], basic.length, 72, 0⟩
  (if basic.isEmpty then [] else basic ++ ['-']) ++ state.output

end FlowDesk.Address.Punycode
