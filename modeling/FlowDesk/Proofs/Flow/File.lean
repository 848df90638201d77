/-
# Files of saved flows

A flow is saved as one line of a file, and a file is read line by line.  This is
lossless as long as the saved line is one line to the reader.  The reader ends a
line also at next line, at the line separator and at the paragraph separator,
which are written as they are: flows that were read are loaded again, in order and
just as they were, exactly when none of these stands in their texts and no whole
number in them has more digits than are read (`loadAll_saved`).
-/

import FlowDesk.Flow.File
import FlowDesk.Proofs.Flow.Writing
import FlowDesk.Proofs.Json.Breaks
import FlowDesk.Proofs.Text.Lines

namespace FlowDesk.Flow

open Text (isLineBreak isSeparator isKept)

/-! ## Loading line by line -/

/-- Lines are loaded as flows exactly when these are what stands on them, one by
one, and no id occurs twice or was seen before. -/
theorem loadLines_eq_ok {path : String} {seen : List String} {lines : List (Nat × String)}
    {flows : List Flow} :
    loadLines path seen lines = .ok flows ↔
      (lines.map Prod.snd).map ofLine = flows.map .ok ∧ (flows.map Flow.id).Nodup ∧
        ∀ flow ∈ flows, flow.id ∉ seen := by
  induction lines generalizing seen flows with
  | nil => cases flows <;> simp [loadLines]
  | cons line lines ih =>
    obtain ⟨number, line⟩ := line
    rw [loadLines, List.map_cons, List.map_cons]
    cases hline : ofLine line with
    | error error => cases flows <;> simp
    | ok flow =>
      constructor
      · intro hload
        dsimp only at hload
        split at hload
        · cases hload
        · rename_i hnew
          split at hload
          · rename_i others hothers
            cases hload
            obtain ⟨hmap, hdistinct, hfresh⟩ := ih.1 hothers
            refine ⟨by rw [hmap, List.map_cons], ?_, ?_⟩
            · rw [List.map_cons, List.nodup_cons]
              refine ⟨fun hmem => ?_, hdistinct⟩
              obtain ⟨other, hother, hsame⟩ := List.mem_map.1 hmem
              exact hfresh other hother (hsame ▸ List.mem_cons_self)
            · intro other hother
              rcases List.mem_cons.1 hother with rfl | hother
              · simpa using hnew
              · exact fun hseen => hfresh other hother (List.mem_cons_of_mem _ hseen)
          · cases hload
      · rintro ⟨hmap, hdistinct, hfresh⟩
        cases flows with
        | nil => cases hmap
        | cons first others =>
          rw [List.map_cons] at hmap hdistinct
          obtain ⟨hfirst, hothers⟩ := List.cons.inj hmap
          cases hfirst
          obtain ⟨hown, hdistinct⟩ := List.nodup_cons.1 hdistinct
          have hload : loadLines path (flow.id :: seen) lines = .ok others := by
            refine ih.2 ⟨hothers, hdistinct, fun other hother hseen => ?_⟩
            rcases List.mem_cons.1 hseen with hsame | hseen
            · exact hown (hsame ▸ List.mem_map_of_mem hother)
            · exact hfresh other (List.mem_cons_of_mem _ hother) hseen
          dsimp only
          rw [if_neg (by simpa using hfresh flow List.mem_cons_self), hload]

/-- Lines that are not blank, trimmed and with their numbers from some number on. -/
def numbered (number : Nat) (lines : List String) : List (Nat × String) :=
  (lines.zipIdx number).filterMap fun (line, number) =>
    let trimmed := Text.trim line
    if trimmed = "" then none else some (number, trimmed)

/-- The first line of some lines is numbered unless it is blank. -/
theorem numbered_cons (number : Nat) (line : String) (lines : List String) :
    numbered number (line :: lines) =
      if Text.trim line = "" then numbered (number + 1) lines
      else (number, Text.trim line) :: numbered (number + 1) lines := by
  rw [numbered, List.zipIdx_cons, List.filterMap_cons]
  split <;> simp_all [numbered]

/-- The lines that are numbered are those that are not blank, trimmed. -/
theorem map_numbered (number : Nat) (lines : List String) :
    (numbered number lines).map Prod.snd =
      (lines.filter fun line => decide (Text.trim line ≠ "")).map Text.trim := by
  induction lines generalizing number with
  | nil => rfl
  | cons line lines ih =>
    rw [numbered_cons, List.filter_cons]
    by_cases hblank : Text.trim line = "" <;> simp [hblank, ih]

/-- The lines of a file that are not blank, without their numbers. -/
theorem map_numberedLines (text : String) :
    (numberedLines text).map Prod.snd =
      ((Text.linesFrom [] (Text.unifyBreaks text.toList)).filter isKept).map fun line =>
        Text.trim (String.ofList line) := by
  have hkept : (fun line => decide (Text.trim line ≠ "")) ∘ String.ofList = isKept :=
    funext fun line => by rw [Function.comp_apply, isKept]
  rw [show numberedLines text = numbered 1 (Text.fileLines text) from rfl, map_numbered,
    Text.fileLines, List.filter_map, List.map_map, hkept]
  rfl

/-- A file is loaded as flows with distinct ids exactly when these are what stands
on its lines that are not blank, one by one. -/
theorem loadAll_eq_ok {path text : String} {flows : List Flow}
    (hids : (flows.map Flow.id).Nodup) :
    loadAll path text = .ok flows ↔
      (((Text.linesFrom [] (Text.unifyBreaks text.toList)).filter isKept).map fun line =>
        Text.trim (String.ofList line)).map ofLine = flows.map .ok := by
  rw [loadAll, loadLines_eq_ok, map_numberedLines]
  simp [hids]

/-! ## Saving -/

/-- The line as which a flow is saved. -/
def line (flow : Flow) : List Char := Json.write [' '] flow.value

/-- No text in the data of a flow holds a character that ends a line and is
written as it is. -/
def OnOneLine (flow : Flow) : Prop :=
  ∀ s ∈ flow.value.texts, ∀ c ∈ s.toList, isSeparator c = false

/-- No whole number in the data of a flow has more digits than are read. -/
def Readable (flow : Flow) : Prop :=
  ∀ n ∈ flow.value.wholes, Numeral.isLong n = false

instance (flow : Flow) : Decidable flow.OnOneLine :=
  decidable_of_iff (flow.value.texts.all fun s => s.toList.all fun c => !isSeparator c)
    (by simp [OnOneLine])

instance (flow : Flow) : Decidable flow.Readable :=
  decidable_of_iff (flow.value.wholes.all fun n => !Numeral.isLong n) (by simp [Readable])

/-- What is asked of a flow so that its line is read as its data: it was read
itself, its numbers are finite, and it is not nested too deeply to be given out. -/
structure Savable (flow : Flow) : Prop where
  settled : flow.Settled
  finite : ∀ v ∈ flow.freeParts, v.isFinite = true
  shallow : ∀ v ∈ flow.freeParts, v.isShallow = true

/-- The line of a flow is read as this flow exactly when no whole number in it is too
long. -/
theorem ofLine_line {flow : Flow} (hsavable : flow.Savable) :
    ofLine (String.ofList flow.line) = .ok flow ↔ flow.Readable := by
  obtain ⟨hsettled, hfinite, hshallow⟩ := hsavable
  have hdepth : flow.value.depth ≤ Json.mostLevels := by
    have hlevels := depth_value_le hsettled hfinite fun v hv =>
      (of_decide_eq_true (hshallow v hv) : v.depth ≤ 254 + 1)
    exact Nat.le_trans hlevels (by decide)
  have htext : Json.ofText (String.ofList flow.line) =
      Json.unlessLong flow.value.wholes flow.value :=
    Json.ofText_text (proper_value hsettled hfinite) (isFinite_value hsettled hfinite) hdepth
  rw [ofLine, htext, Readable, ← Json.unlessLong_eq_ok flow.value]
  constructor
  · intro hread
    unfold Json.unlessLong at hread ⊢
    cases hfind : flow.value.wholes.find? Numeral.isLong with
    | none => rfl
    | some n =>
      rw [hfind] at hread
      cases hread
  · intro hread
    rw [hread]
    simp only [read_value hsettled hfinite]

/-- The line of a flow is a block. -/
theorem block_line (flow : Flow) : Text.Block flow.line :=
  ⟨'\x7b', _, '\x7d', rfl, by decide, by decide⟩

/-- Saved flows are lines that end in line feeds. -/
theorem toList_saved (flows : List Flow) :
    (String.join (flows.map saved)).toList = Text.joined (flows.map line) := by
  rw [String.toList_join, Text.joined, List.flatMap_map, List.flatMap_map]
  refine congrArg (List.flatMap · flows) (funext fun flow => ?_)
  simp [saved, Json.text, line]

/-- Flows are saved only when none of their free parts is nested too deeply. -/
theorem saved_of_mapM {flows : List Flow} {texts : List String}
    (hsaved : flows.mapM save? = some texts) :
    texts = flows.map saved ∧ ∀ flow ∈ flows, ∀ v ∈ flow.freeParts, v.isShallow = true := by
  induction flows generalizing texts with
  | nil =>
    cases hsaved
    exact ⟨rfl, by simp⟩
  | cons flow flows ih =>
    rw [List.mapM_cons] at hsaved
    obtain ⟨text, htext, hsaved⟩ := Option.bind_eq_some_iff.1 hsaved
    obtain ⟨others, hothers, hsaved⟩ := Option.bind_eq_some_iff.1 hsaved
    cases hsaved
    obtain ⟨rfl, hshallow⟩ := ih hothers
    rw [save?] at htext
    split at htext
    · rename_i hgiven
      cases htext
      obtain ⟨hgiven, -⟩ := Bool.and_eq_true_iff.1 hgiven
      refine ⟨rfl, fun other hother => ?_⟩
      rcases List.mem_cons.1 hother with rfl | hother
      · exact fun v hv => decide_eq_true (isSome_output_iff.1 hgiven v hv)
      · exact hshallow other hother
    · cases htext

/-- Saved flows are loaded again, in order and just as they were, exactly when no
text in them breaks its line and no whole number in them is too long to be read. -/
theorem loadAll_saved (path : String) {flows : List Flow} {texts : List String}
    (hread : ∀ flow ∈ flows, ∃ raw : Value, raw.Proper ∧ Flow.read raw = .ok flow)
    (hids : (flows.map Flow.id).Nodup)
    (hfinite : ∀ flow ∈ flows, ∀ v ∈ flow.freeParts, v.isFinite = true)
    (hsaved : flows.mapM save? = some texts) :
    loadAll path (String.join texts) = .ok flows ↔
      ∀ flow ∈ flows, flow.OnOneLine ∧ flow.Readable := by
  obtain ⟨rfl, hshallow⟩ := saved_of_mapM hsaved
  have hsavable : ∀ flow ∈ flows, flow.Savable := by
    intro flow hflow
    obtain ⟨raw, hproper, hraw⟩ := hread flow hflow
    exact ⟨settled_of_read hproper hraw, hfinite flow hflow, hshallow flow hflow⟩
  have hvalue : ∀ flow ∈ flows, flow.value.isFinite = true := fun flow hflow =>
    isFinite_value (hsavable flow hflow).settled (hsavable flow hflow).finite
  have hblocks : ∀ block ∈ flows.map line, Text.Block block :=
    List.forall_mem_map.2 fun flow _ => block_line flow
  have hreturn : '\r' ∉ Text.joined (flows.map line) := by
    intro hmem
    obtain ⟨block, hblock, hmem⟩ := List.mem_flatMap.1 hmem
    obtain ⟨flow, hflow, rfl⟩ := List.mem_map.1 hblock
    rcases List.mem_append.1 hmem with hmem | hmem
    · exact Json.return_not_mem_write (hvalue flow hflow) hmem
    · exact absurd (List.mem_singleton.1 hmem) (by decide)
  have hlines : (∀ flow ∈ flows, flow.OnOneLine) →
      (loadAll path (String.join (flows.map saved)) = .ok flows ↔
        ∀ flow ∈ flows, flow.Readable) := by
    intro hone
    have hkept := Text.keptLines_joined hblocks (List.forall_mem_map.2 fun flow hflow =>
      (Json.noBreak_write (hvalue flow hflow)).2 (hone flow hflow))
    rw [loadAll_eq_ok hids, toList_saved, Text.unifyBreaks_eq hreturn, hkept, List.map_map,
      List.map_map, List.map_inj_left]
    apply forall₂_congr
    intro flow hflow
    rw [← ofLine_line (hsavable flow hflow)]
    simp only [Function.comp_apply, (block_line flow).trim_eq]
  constructor
  · intro hload
    have hone : ∀ flow ∈ flows, flow.OnOneLine := by
      have hmap := hload
      rw [loadAll_eq_ok hids, toList_saved, Text.unifyBreaks_eq hreturn] at hmap
      have hlength := congrArg List.length hmap
      simp only [List.length_map] at hlength
      have hcount : (Text.linesFrom [] (Text.joined (flows.map line))).countP isKept ≤
          (flows.map line).length := by
        rw [List.countP_eq_length_filter, hlength, List.length_map]
      have hbreaks := Text.not_isLineBreak_of_countP hblocks hcount
      exact fun flow hflow => (Json.noBreak_write (hvalue flow hflow)).1
        (hbreaks _ (List.mem_map_of_mem hflow))
    exact fun flow hflow => ⟨hone flow hflow, (hlines hone).1 hload flow hflow⟩
  · intro hall
    exact (hlines fun flow hflow => (hall flow hflow).1).2 fun flow hflow => (hall flow hflow).2

/-- A line feed in a name does no harm, but a line separator does. -/
theorem loadAll_saved_separator :
    let flow (name : String) : Flow :=
      ⟨"greet", name, "", .none, "say", [("say", ⟨"say", "say", none, .response "Hi"⟩)]⟩
    loadAll "flows.jsonl" (String.join [(flow "one\ntwo").saved]) = .ok [flow "one\ntwo"] ∧
      loadAll "flows.jsonl" (String.join [(flow "one\u2028two").saved]) ≠
        .ok [flow "one\u2028two"] := by
  intro flow
  have hloaded : ∀ name, loadAll "flows.jsonl" (String.join [(flow name).saved]) =
      .ok [flow name] ↔ ∀ own ∈ [flow name], own.OnOneLine ∧ own.Readable := by
    intro name
    let step : Value := .object [("type", .text "response"), ("response", .text "Hi")]
    let raw : Value := .object
      [ ("id", .text "greet"), ("name", .text name), ("initial_step", .text "say"),
        ("steps", .object [("say", step)]) ]
    refine loadAll_saved "flows.jsonl" (fun own hown => ⟨raw, ?_, ?_⟩) ?_ ?_ rfl
    · simp [raw, step, Value.Proper, Value.ProperFields, Table.names]
    · rw [List.mem_singleton.1 hown]
      rfl
    · simp
    · intro own hown v hv
      rw [List.mem_singleton.1 hown] at hv
      simp [flow, freeParts, Table.values, Action.freeParts] at hv
  have hfeed : (flow "one\ntwo").OnOneLine ∧ (flow "one\ntwo").Readable := by decide +kernel
  have hseparator : ¬ (flow "one\u2028two").OnOneLine := by decide +kernel
  refine ⟨(hloaded _).2 fun own hown => ?_, fun hload => ?_⟩
  · rw [List.mem_singleton.1 hown]
    exact hfeed
  · exact hseparator ((hloaded _).1 hload _ List.mem_cons_self).1

end FlowDesk.Flow
