/-
# Templates whose slots are always filled

A slot of a response stays as it was written when the bindings have no value for
its path, and a step fails when a slot of it would bring in a value that cannot be
written.  Whether that can happen is decided here by reading a flow backwards:
responses and operations want their slots filled, an operation that promises a field
fills it when it succeeds and leaves everything else to the steps before it, and a step
with several successors wants what any of them wants (`Flow.wants`).  A run that
stops without a response, or fails, is wanted nowhere, so the same reading tells
that a run ends well.

Operations enter only through their promises: that they return a mapping, and
which paths of it are filled when it says that they succeeded.  The main result
is `Graph.course_answers`: where the promises are kept, a walk whose context
fills what its step wants finishes with a response, and fills every slot on the
way.
-/

import FlowDesk.Proofs.Run.History
import FlowDesk.Proofs.Run.Soundness
import FlowDesk.Proofs.Template.Scan

namespace FlowDesk

/-! ## Filled paths -/

/-- A path leads to a value that is not null and can be written. -/
def Value.Fills (v : Value) (path : List String) : Prop :=
  ∃ found, v.follow? path = some found ∧ found.isNull = false ∧ found.isWritable = true

/-- A path to a text is filled. -/
theorem Value.fills_of_text {v : Value} {path : List String} {s : String}
    (hfound : v.follow? path = some (.text s)) : v.Fills path :=
  ⟨_, hfound, rfl, rfl⟩

namespace Template

/-- The paths that a template has slots for. -/
def paths (template : String) : List (List String) :=
  (pieces template).filterMap fun
    | .literal _ => none
    | .slot path => some (Path.segments (String.ofList path))

variable {bindings : Fields}

/-- A slot has a value if its path is filled. -/
theorem slotValue?_of_fills {path : List Char}
    (hfills : (Value.object bindings).Fills (Path.segments (String.ofList path))) :
    (slotValue? bindings path).isSome := by
  obtain ⟨found, hfound, hnull, -⟩ := hfills
  rw [slotValue?_eq_some.2 ⟨hfound, hnull⟩]
  rfl

/-- A template can be expanded where its paths are filled. -/
theorem exists_expandText {template : String}
    (hfilled : ∀ path ∈ paths template, (Value.object bindings).Fills path) :
    ∃ text, expandText bindings template = .ok text := by
  obtain ⟨chars, hchars⟩ : ∃ chars, expandPieces bindings (pieces template) = .ok chars := by
    refine exists_expandPieces.2 fun path v hmem hvalue => ?_
    obtain ⟨found, hfound, -, hwritable⟩ :=
      hfilled _ (List.mem_filterMap.2 ⟨.slot path, hmem, rfl⟩)
    cases hfound.symm.trans (slotValue?_eq_some.1 hvalue).1
    exact hwritable
  exact ⟨_, Except.map_eq_ok.2 ⟨chars, hchars, rfl⟩⟩

/-- A template of any shape can be filled in where the paths of its texts are filled, if it
does not have too many levels. -/
theorem exists_fill {template : Value} (hfits : template.nesting ≤ mostLevels)
    (hfilled : ∀ path ∈ template.templates.flatMap paths, (Value.object bindings).Fills path) :
    ∃ filled, fill bindings template = .ok filled :=
  exists_expand.2 ⟨hfits, fun text htext => exists_expandText fun path hpath =>
    hfilled path (List.mem_flatMap.2 ⟨text, htext, hpath⟩)⟩

end Template

/-- Only the field with which a path begins counts for it. -/
theorem Value.fills_congr {first second : Fields} {name : String} {rest : List String}
    (hname : first.at? name = second.at? name)
    (hfills : (Value.object first).Fills (name :: rest)) :
    (Value.object second).Fills (name :: rest) := by
  obtain ⟨found, hfound, hgiven⟩ := hfills
  refine ⟨found, ?_, hgiven⟩
  simpa [follow?, step?, ← hname] using hfound

/-! ## Promises of operations -/

/-- What an operation promises: which paths of its result are filled when it
succeeded, and whether it always succeeds. -/
structure Promise where
  gives : List (List String)
  always : Bool

/-- A result keeps a promise: it says that the operation succeeded if that is
promised, and when it says so, the promised paths are filled. -/
structure Promise.KeptBy (promise : Promise) (result : Fields) : Prop where
  success : promise.always → succeeded result
  given : succeeded result → ∀ path ∈ promise.gives, (Value.object result).Fills path

/-- An answer fulfils a promise: it is a mapping that keeps it. -/
def Answer.Fulfils (answer : Answer) (promise : Promise) : Prop :=
  ∃ result, answer = .value (.object result) ∧ promise.KeptBy result

/-- A delivery fulfils a promise: an answer comes that does. -/
def Delivery.Fulfils (delivery : Delivery) (promise : Promise) : Prop :=
  ∃ answer, delivery.answer? = some answer ∧ answer.Fulfils promise

/-- The promises of operations, by their names and the arguments that a step
gives them. -/
abbrev Promises := String → Fields → Option Promise

/-- The paths that are wanted to be filled when a run comes to a key, so that it
ends with a response and leaves no slot open on the way.  There are none to speak
of where it may fail, or stop without a response. -/
abbrev Wants := String → Option (List (List String))

/-- What is wanted of the first successor that is named; a run that stops there
is not wanted. -/
def Wants.ofFirst (later : Wants) (targets : List (Option String)) :
    Option (List (List String)) :=
  match Verdict.toFirst targets with
  | .goTo key => later key
  | _ => none

/-- What is still wanted before an operation that takes over some names, of what
is wanted after it has succeeded: a path under one of the names must be
promised. -/
def Promise.leaves (promise : Promise) (names : List String) (after : List (List String)) :
    Option (List (List String)) :=
  if after.all fun path => path.head?.any fun name => name ∉ names || path ∈ promise.gives then
    some (after.filter fun path => path.head?.any (· ∉ names))
  else none

/-- What an operation wants to be called with some arguments: their slots filled, and not
too many levels. -/
def Template.wants (template : Value) : Option (List (List String)) :=
  if template.nesting ≤ mostLevels then some (template.templates.flatMap paths) else none

/-- What a step wants, given what is wanted later. -/
def Step.wants (step : Step) (promises : Promises) (later : Wants) :
    Option (List (List String)) :=
  match step.action with
  | .operation operation args names onSuccess onFailure => do
    let promise ← promises operation args
    let called ← Template.wants (.object args)
    let after ← later.ofFirst [onSuccess, step.next]
    let before ← promise.leaves names after
    let failed ← (if promise.always then some [] else later.ofFirst [onFailure])
    return called ++ (before ++ failed)
  | .branch guard onTrue onFalse =>
    if guard.operator = .contains then none
    else do return (← later.ofFirst [onTrue, step.next]) ++ (← later.ofFirst [onFalse])
  | .response template =>
    if template = "" then none
    else match Verdict.toFirst [step.next] with
    | .goTo key => (later key).map (Template.paths template ++ ·)
    | _ => some (Template.paths template)

/-- What is wanted at a key of a flow, for a run that takes no more than some
steps from there. -/
def Flow.wants (flow : Flow) (promises : Promises) : Nat → Wants
  | 0 => fun _ => none
  | depth + 1 => fun key => do (← flow.steps.at? key).wants promises (flow.wants promises depth)

/-- Where something is wanted of the first successor, there is one. -/
theorem Wants.ofFirst_eq_some {later : Wants} {targets : List (Option String)}
    {paths : List (List String)} (hwants : later.ofFirst targets = some paths) :
    ∃ key, Verdict.toFirst targets = .goTo key ∧ later key = some paths := by
  unfold ofFirst at hwants
  split at hwants
  · rename_i key hkey
    exact ⟨key, hkey, hwants⟩
  · cases hwants

/-- What is wanted after an operation is filled by what its result promises and
by what is wanted before. -/
theorem Promise.fills_of_leaves {promise : Promise} {names : List String}
    {before after : List (List String)} {bindings result : Fields}
    (hbefore : promise.leaves names after = some before)
    (hgiven : ∀ path ∈ promise.gives, (Value.object result).Fills path)
    (hfilled : ∀ path ∈ before, (Value.object bindings).Fills path) :
    ∀ path ∈ after, (Value.object (bindings.putAll (extracted names result))).Fills path := by
  intro path hpath
  unfold leaves at hbefore
  split at hbefore
  · rename_i hall
    cases hbefore
    cases path with
    | nil => cases List.all_eq_true.1 hall _ hpath
    | cons name rest =>
      have hat := Table.at?_putAll_extracted bindings result names name
      by_cases hname : name ∈ names
      · have hgives : name :: rest ∈ promise.gives := by
          simpa [hname] using List.all_eq_true.1 hall _ hpath
        have hresult := hgiven _ hgives
        refine Value.fills_congr ?_ hresult
        obtain ⟨found, hfound, -⟩ := hresult
        cases hfield : result.at? name with
        | none => simp [Value.follow?, Value.step?, hfield] at hfound
        | some v => simp [hat, hname, hfield]
      · refine Value.fills_congr (by simp [hat, hname]) (hfilled (name :: rest) ?_)
        exact List.mem_filter.2 ⟨hpath, by simp [hname]⟩
  · cases hbefore

/-- A handler keeps promises: whatever the context, it answers the call of a step
as its operation promises. -/
def Promises.KeptBy {σ : Type} (promises : Promises) (handler : Handler σ) : Prop :=
  ∀ operation args promise, promises operation args = some promise →
    ∀ context call, Step.call context operation args = .ok call →
      ∀ state, (handler call state).1.Fulfils promise

/-! ## One step -/

/-- An effect goes on as it is wanted later: it leads to a key and fills what is
wanted there, or it stops with a response. -/
inductive Effect.Continues (effect : Effect) (later : Wants) : Prop
  | goes {target : String} {paths : List (List String)} (hverdict : effect.verdict = .goTo target)
    (hwants : later target = some paths)
    (hfilled : ∀ path ∈ paths, (Value.object effect.context.bindings).Fills path)
  | stops (hverdict : effect.verdict = .stop) (hresponse : effect.context.response.isSome)

namespace Step

variable {step : Step} {promises : Promises} {later : Wants} {context : Context}
  {paths : List (List String)}

/-- A step that wants nothing else calls its operation. -/
theorem exists_call {operation : String} {args : Fields} {names : List String}
    {onSuccess onFailure : Option String}
    (haction : step.action = .operation operation args names onSuccess onFailure)
    (hwants : step.wants promises later = some paths)
    (hfilled : ∀ path ∈ paths, (Value.object context.bindings).Fills path) :
    ∃ call, Step.call context operation args = .ok call := by
  simp only [wants, haction, Option.bind_eq_bind, Option.bind_eq_some_iff, Option.pure_def,
    Option.some.injEq, Template.wants, Option.ite_none_right_eq_some] at hwants
  obtain ⟨_, _, called, ⟨hfits, rfl⟩, _, _, _, _, _, _, rfl⟩ := hwants
  obtain ⟨filled, hfill⟩ := Template.exists_fill hfits (List.forall_mem_append.1 hfilled).1
  exact ⟨_, by rw [call, hfill]; rfl⟩

/-- A result that keeps the promise of its operation goes on as wanted, whether
it says that the operation succeeded or not. -/
theorem settleResult_continues {operation : String} {args : Fields} {names : List String}
    {onSuccess onFailure : Option String} {promise : Promise} {result : Fields}
    (haction : step.action = .operation operation args names onSuccess onFailure)
    (hpromise : promises operation args = some promise) (hkept : promise.KeptBy result)
    (hwants : step.wants promises later = some paths)
    (hfilled : ∀ path ∈ paths, (Value.object context.bindings).Fills path) :
    (step.settleResult operation names onSuccess onFailure context result).Continues later := by
  simp only [wants, haction, hpromise, Option.bind_eq_bind, Option.bind_some,
    Option.bind_eq_some_iff, Option.pure_def, Option.some.injEq] at hwants
  obtain ⟨called, -, after, hafter, before, hbefore, failed, hfailed, rfl⟩ := hwants
  rw [List.forall_mem_append, List.forall_mem_append] at hfilled
  obtain ⟨-, hfilled⟩ := hfilled
  by_cases hsucceeded : succeeded result
  · obtain ⟨target, hfirst, htarget⟩ := Wants.ofFirst_eq_some hafter
    refine .goes ?_ htarget ?_
    · simp only [settleResult, if_pos hsucceeded, hfirst]
    · simp only [settleResult, if_pos hsucceeded]
      exact Promise.fills_of_leaves hbefore (hkept.given hsucceeded) hfilled.1
  · have halways : ¬ promise.always := fun halways => hsucceeded (hkept.success halways)
    rw [if_neg halways] at hfailed
    obtain ⟨target, hfirst, htarget⟩ := Wants.ofFirst_eq_some hfailed
    obtain ⟨hmem, hne⟩ := Verdict.mem_of_toFirst_eq_goTo hfirst
    obtain rfl : onFailure = some target := (List.mem_singleton.1 hmem).symm
    have hnamed : (some target).filter (· ≠ "") = some target := by
      rw [Option.filter_some, if_pos (by simpa using hne)]
    refine .goes ?_ htarget ?_
    · simp only [settleResult, if_neg hsucceeded, hnamed]
    · simpa [settleResult, hsucceeded, Table.putAll] using hfilled.2

/-- Only a guard that looks for a part of a text may have no answer. -/
theorem exists_holds {guard : Guard} (hoperator : guard.operator ≠ .contains)
    (context : Context) : ∃ result, guard.holds context = .ok result := by
  unfold Guard.holds
  split
  · unfold Operator.holds
    split
    all_goals first | exact ⟨_, rfl⟩ | contradiction
  · exact ⟨_, rfl⟩

/-- A branch goes on as wanted, whichever way it takes. -/
theorem decide_continues {guard : Guard} {onTrue onFalse : Option String}
    (haction : step.action = .branch guard onTrue onFalse)
    (hwants : step.wants promises later = some paths)
    (hfilled : ∀ path ∈ paths, (Value.object context.bindings).Fills path) :
    (step.decide guard onTrue onFalse context).Continues later := by
  simp only [wants, haction, Option.bind_eq_bind, Option.bind_eq_some_iff, Option.pure_def,
    Option.ite_none_left_eq_some, Option.some.injEq] at hwants
  obtain ⟨hoperator, yes, hyes, no, hno, rfl⟩ := hwants
  rw [List.forall_mem_append] at hfilled
  obtain ⟨result, hholds⟩ := exists_holds hoperator context
  cases result with
  | true =>
    obtain ⟨target, hfirst, htarget⟩ := Wants.ofFirst_eq_some hyes
    exact .goes (by simp only [decide, hholds, if_true, hfirst]) htarget
      (by simpa only [decide, hholds] using hfilled.1)
  | false =>
    obtain ⟨target, hfirst, htarget⟩ := Wants.ofFirst_eq_some hno
    exact .goes (by simp only [decide, hholds, Bool.false_eq_true, if_false, hfirst]) htarget
      (by simpa only [decide, hholds] using hfilled.2)

/-- A response goes on as wanted, or stops the run, and has its slots filled. -/
theorem respond_continues {template : String} (haction : step.action = .response template)
    (hwants : step.wants promises later = some paths)
    (hfilled : ∀ path ∈ paths, (Value.object context.bindings).Fills path) :
    (step.respond template context).Continues later ∧
      ∀ path ∈ Template.paths template, (Value.object context.bindings).Fills path := by
  simp only [wants, haction] at hwants
  split at hwants
  · cases hwants
  · rename_i htemplate
    have hrespond (hslots : ∀ path ∈ Template.paths template,
        (Value.object context.bindings).Fills path) :
        ∃ text, step.respond template context = ⟨{ context with response := some text },
          [.responseRendered step.id text.length], .toFirst [step.next]⟩ := by
      obtain ⟨text, htext⟩ := Template.exists_expandText hslots
      refine ⟨text, ?_⟩
      simp only [respond, response, if_neg htemplate, htext]
      rfl
    rcases Verdict.toFirst_cases [step.next] with ⟨target, hfirst⟩ | hfirst
    · rw [hfirst] at hwants
      obtain ⟨after, hafter, rfl⟩ := Option.map_eq_some_iff.1 hwants
      rw [List.forall_mem_append] at hfilled
      obtain ⟨text, htext⟩ := hrespond hfilled.1
      rw [htext]
      exact ⟨.goes hfirst hafter hfilled.2, hfilled.1⟩
    · rw [hfirst] at hwants
      cases hwants
      obtain ⟨text, htext⟩ := hrespond hfilled
      rw [htext]
      exact ⟨.stops hfirst rfl, hfilled⟩

end Step

/-! ## The run -/

variable {σ : Type}

/-- A visit fills the slots of its response, if it is one. -/
def Visit.Filled (visit : Visit) : Prop :=
  ∀ step template, visit.node = .step step → step.action = .response template →
    ∀ path, .slot path ∈ Template.pieces template →
      (Template.slotValue? visit.context.bindings path).isSome

/-- A course from a context answers: it finishes with a response, and every
response on the way has its slots filled. -/
structure Course.Answers (course : Course σ) (context : Context) : Prop where
  ending : course.ending = .finished
  response : (contextAfter course.visits context).response.isSome
  filled : ∀ visit ∈ course.visits, visit.Filled

/-- A course that answers does so with a visit before it that leaves nothing
open. -/
theorem Course.Answers.preceded {course : Course σ} {visit : Visit}
    (hrest : course.Answers visit.after) (hfilled : visit.Filled) (context : Context) :
    (course.preceded visit).Answers context :=
  ⟨hrest.ending, hrest.response, List.forall_mem_cons.2 ⟨hfilled, hrest.filled⟩⟩

namespace Graph

/-- Where the promises are kept, a visit of a step whose wants are filled goes on
as wanted and fills the slots of its response. -/
theorem visit_continues {promises : Promises} {handler : Handler σ}
    (hkept : promises.KeptBy handler) (key : String) {step : Step} {later : Wants}
    {paths : List (List String)} (hwants : step.wants promises later = some paths)
    (context : Context) (state : σ)
    (hfilled : ∀ path ∈ paths, (Value.object context.bindings).Fills path) :
    let consulted := (Node.step step).consult handler context state
    (∃ effect, (Node.step step).effect? key context consulted.1 = some effect ∧
        effect.Continues later) ∧
      (Visit.mk key (.step step) context consulted.1).Filled := by
  intro consulted
  cases haction : step.action with
  | operation operation args names onSuccess onFailure =>
    cases hpromise : promises operation args with
    | none => simp [Step.wants, haction, hpromise] at hwants
    | some promise =>
      obtain ⟨call, hcall⟩ := Step.exists_call haction hwants hfilled
      obtain ⟨_, hanswer, result, rfl, hresult⟩ :=
        hkept operation args promise hpromise context call hcall state
      have hconsulted : consulted.1 = some (.value (.object result)) := by
        simp only [consulted, Node.consult, Node.call?, haction, hcall, Except.toOption]
        exact hanswer
      refine ⟨⟨_, ?_, Step.settleResult_continues haction hpromise hresult hwants hfilled⟩, ?_⟩
      · simp only [Node.effect?, haction, hcall, hconsulted]
        rfl
      · rintro own template ⟨⟩ hown
        simp [haction] at hown
  | branch guard onTrue onFalse =>
    refine ⟨⟨_, ?_, Step.decide_continues haction hwants hfilled⟩, ?_⟩
    · simp only [Node.effect?, haction]
    · rintro own template ⟨⟩ hown
      simp [haction] at hown
  | response template =>
    obtain ⟨hcontinues, hslots⟩ := Step.respond_continues haction hwants hfilled
    refine ⟨⟨_, ?_, hcontinues⟩, ?_⟩
    · simp only [Node.effect?, haction]
    · rintro own template' ⟨⟩ hown path hpath
      obtain rfl : template = template' := by simpa [haction] using hown
      exact Template.slotValue?_of_fills
        (hslots _ (List.mem_filterMap.2 ⟨.slot path, hpath, rfl⟩))

/-- Where the promises are kept, a walk with enough steps left answers from every
key whose wants its context fills. -/
theorem course_answers {flow : Flow} {promises : Promises} {handler : Handler σ}
    (hkept : promises.KeptBy handler) (budget : Nat) {depth left : Nat} (hle : depth ≤ left)
    (key : String) (context : Context) (state : σ) {paths : List (List String)}
    (hwants : flow.wants promises depth key = some paths)
    (hfilled : ∀ path ∈ paths, (Value.object context.bindings).Fills path) :
    (flow.graph.course handler budget left key context state).Answers context := by
  induction depth generalizing left key context state paths with
  | zero => cases hwants
  | succ depth ih =>
    obtain ⟨left, rfl⟩ := Nat.exists_eq_succ_of_ne_zero (Nat.ne_zero_of_lt hle)
    simp only [Flow.wants, Option.bind_eq_bind, Option.bind_eq_some_iff] at hwants
    obtain ⟨step, hstep, hwants⟩ := hwants
    have hnode : flow.graph.nodes.at? key = some (.step step) := by
      rw [flow.at?_graph, hstep, Option.map_some]
    obtain ⟨⟨effect, heffect, hcontinues⟩, hvisit⟩ :=
      visit_continues hkept key hwants context state hfilled
    have hafter : (Visit.mk key (.step step) context
        ((Node.step step).consult handler context state).1).after = effect.context := by
      simp [Visit.after, Visit.effect?, heffect]
    cases hcontinues with
    | goes hverdict hnext hfills =>
      simp only [course_of_effect? hnode heffect, hverdict]
      have hrest := ih (Nat.le_of_succ_le_succ hle) _ effect.context
        ((Node.step step).consult handler context state).2 hnext hfills
      exact Course.Answers.preceded (hafter ▸ hrest) hvisit context
    | stops hverdict hresponse =>
      simp only [course_of_effect? hnode heffect, hverdict]
      refine ⟨rfl, ?_, List.forall_mem_cons.2 ⟨hvisit, by simp⟩⟩
      rw [contextAfter_cons, contextAfter_nil, hafter]
      exact hresponse

end Graph

end FlowDesk
