/-
# Powers

Powers of the two bases in which fractional numbers are held and written.
-/

namespace FlowDesk

/-- A power of two. -/
def twoTo (exponent : Nat) : Nat := Nat.pow 2 exponent

/-- A power of ten. -/
def tenTo (exponent : Nat) : Nat := Nat.pow 10 exponent

end FlowDesk
