/-
# Flow files line by line

A file is loaded all at once, but what comes of it is said of its lines.  Either every line
that is not blank holds a flow, and the ids of these are distinct: then they are loaded in
the order of their lines (`loadAll_eq_ok_iff`).  Or there is a first line at which this
fails, and the file is refused for what stands on this line (`loadAll_eq_error_iff`).

Lines are counted from one and blank lines count, so the number in a report about a
repeated id is not the number of flows before it.  It is the place of the first line whose
id stands on an earlier line (`first_repeat_of_duplicate`).
-/

import FlowDesk.Desk.Opening
import FlowDesk.Proofs.Flow.File
import FlowDesk.Proofs.Text.Blank

namespace FlowDesk

/-- A line is written on: not all of its characters are white space. -/
def Text.Written (line : String) : Prop :=
  ∃ c ∈ line.toList, isBlank c = false

instance (line : String) : Decidable (Text.Written line) :=
  decidable_of_iff (line.toList.any fun c => !Text.isBlank c) (by simp [Text.Written])

/-- Something is left of a line that is written on when it is trimmed. -/
theorem Text.written_iff {line : String} : Written line ↔ trim line ≠ "" := by
  simp [Written, ne_eq, trim_eq_empty_iff]

namespace Flow

variable {path text : String} {lines : List String} {flows : List Flow}

/-! ## What stands on lines -/

/-- Some lines hold some flows: on each line that is written on stands one of them, in
order, and there are no others. -/
def Holds (lines : List String) (flows : List Flow) : Prop :=
  List.Forall₂ (fun line flow => ofLine (Text.trim line) = .ok flow)
    (lines.filter Text.Written) flows

/-- Lines hold flows when these are read from the lines that are not blank. -/
theorem holds_iff {number : Nat} :
    Holds lines flows ↔ ((numbered number lines).map Prod.snd).map ofLine = flows.map .ok := by
  have hwritten : (fun line => decide (Text.Written line)) =
      fun line => decide (Text.trim line ≠ "") :=
    funext fun line => decide_eq_decide.2 Text.written_iff
  rw [Holds, hwritten, map_numbered, List.map_map, ← List.forall₂_eq_eq_eq,
    List.forall₂_map_left_iff, List.forall₂_map_right_iff]
  simp only [Function.comp_apply]

/-- No flow stands on a blank line. -/
theorem toOption_of_blank {line : String} (hblank : ¬ Text.Written line) :
    (ofLine (Text.trim line)).toOption = none := by
  rw [Text.written_iff, not_not] at hblank
  rw [hblank]
  rfl

/-- The flows that lines hold are those that stand on any of them. -/
theorem Holds.eq_filterMap (hholds : Holds lines flows) :
    flows = lines.filterMap fun line => (ofLine (Text.trim line)).toOption := by
  induction lines generalizing flows with
  | nil => cases hholds; rfl
  | cons line lines ih =>
    rw [List.filterMap_cons]
    by_cases hline : Text.Written line
    · rw [Holds, List.filter_cons, if_pos (decide_eq_true hline)] at hholds
      obtain ⟨flow, others, hread, hothers, rfl⟩ := List.forall₂_cons_left_iff.1 hholds
      rw [hread, ih hothers]
      rfl
    · rw [Holds, List.filter_cons, if_neg (by simpa using hline)] at hholds
      rw [toOption_of_blank hline]
      exact ih hholds

/-! ## Loading part of a file -/

/-- The lines of two parts are numbered on from one part to the other. -/
theorem numbered_append (number : Nat) (before after : List String) :
    numbered number (before ++ after) =
      numbered number before ++ numbered (number + before.length) after := by
  rw [numbered, List.zipIdx_append, List.filterMap_append, numbered, numbered]

/-- Of two parts the second is loaded after the first, and no id of the first is new. -/
theorem loadLines_append (path : String) (seen : List String) (before after : List (Nat × String)) :
    loadLines path seen (before ++ after) = do
      let flows ← loadLines path seen before
      let others ← loadLines path ((flows.map Flow.id).reverse ++ seen) after
      return flows ++ others := by
  induction before generalizing seen with
  | nil =>
    exact (bind_pure (loadLines path seen after)).symm
  | cons line before ih =>
    obtain ⟨number, line⟩ := line
    rw [List.cons_append, loadLines, loadLines]
    cases hline : ofLine line with
    | error error => rfl
    | ok flow =>
      dsimp only
      split
      · rfl
      · rw [ih]
        cases loadLines path (flow.id :: seen) before with
        | error error => rfl
        | ok flows =>
          simp only [bind, Except.bind, List.map_cons, List.reverse_cons, List.append_assoc,
            List.singleton_append, pure, Except.pure]
          cases loadLines path ((flows.map Flow.id).reverse ++ flow.id :: seen) after <;> rfl

/-- Lines that are not loaded are not loaded with others after them. -/
theorem loadLines_append_of_error {seen : List String} {before : List (Nat × String)}
    {error : FileError} (hbefore : loadLines path seen before = .error error)
    (after : List (Nat × String)) : loadLines path seen (before ++ after) = .error error := by
  rw [loadLines_append, hbefore]
  rfl

/-- After lines that are loaded, others are not loaded for themselves or for an id that they
repeat. -/
theorem loadLines_append_eq_error_iff {before : List (Nat × String)} {error : FileError}
    (hbefore : loadLines path [] before = .ok flows) {after : List (Nat × String)} :
    loadLines path [] (before ++ after) = .error error ↔
      loadLines path (flows.map Flow.id).reverse after = .error error := by
  rw [loadLines_append, hbefore]
  simp only [bind, Except.bind, List.append_nil]
  cases loadLines path (flows.map Flow.id).reverse after <;> simp [pure, Except.pure]

/-- A file is loaded when its lines hold flows with distinct ids. -/
theorem loadAll_eq_ok_iff :
    loadAll path text = .ok flows ↔
      Holds (Text.fileLines text) flows ∧ (flows.map Flow.id).Nodup := by
  rw [loadAll, show numberedLines text = numbered 1 (Text.fileLines text) from rfl, loadLines_eq_ok,
    ← holds_iff]
  simp

/-! ## Refused files -/

/-- A line is refused after some flows: no flow stands on it, or one with the id of an
earlier one. -/
inductive Refused (path : String) (number : Nat) (earlier : List Flow) (line : String) :
    FileError → Prop
  | unread {error : FileError} (hread : ofLine (Text.trim line) = .error error) :
    Refused path number earlier line error
  | repeated {flow : Flow} (hread : ofLine (Text.trim line) = .ok flow)
    (hid : flow.id ∈ earlier.map Flow.id) :
    Refused path number earlier line (.duplicate path number flow.id)

/-- Lines are read up to one that is written on: those before it hold flows with distinct
ids. -/
structure ReadUpTo (lines before : List String) (line : String) (earlier : List Flow) : Prop where
  split : ∃ after, lines = before ++ line :: after
  written : Text.Written line
  holds : Holds before earlier
  distinct : (earlier.map Flow.id).Nodup

/-- Lines are read up to one whatever comes after them. -/
theorem ReadUpTo.append {before : List String} {line : String} {earlier : List Flow}
    (hup : ReadUpTo lines before line earlier) (more : List String) :
    ReadUpTo (lines ++ more) before line earlier := by
  obtain ⟨⟨after, rfl⟩, hwritten, hholds, hdistinct⟩ := hup
  exact ⟨⟨after ++ more, by simp⟩, hwritten, hholds, hdistinct⟩

/-- After some flows a line is not loaded exactly when it is refused after them. -/
theorem loadLines_singleton_eq_error_iff {number : Nat} {line : String} {earlier : List Flow}
    {error : FileError} :
    loadLines path (earlier.map Flow.id).reverse [(number, Text.trim line)] = .error error ↔
      Refused path number earlier line error := by
  constructor
  · intro hload
    rw [loadLines] at hload
    cases hread : ofLine (Text.trim line) with
    | error found =>
      rw [hread] at hload
      cases hload
      exact .unread hread
    | ok flow =>
      rw [hread] at hload
      dsimp only at hload
      split at hload
      · rename_i hseen
        cases hload
        exact .repeated hread (by simpa using hseen)
      · cases hload
  · rintro (hread | ⟨hread, hid⟩)
    · rw [loadLines, hread]
    · rw [loadLines, hread]
      exact if_pos (by simpa using hid)

/-- Lines are not loaded exactly when they are read up to one that is refused. -/
theorem loadLines_eq_error_iff {number : Nat} {error : FileError} :
    loadLines path [] (numbered number lines) = .error error ↔
      ∃ before line earlier, ReadUpTo lines before line earlier ∧
        Refused path (number + before.length) earlier line error := by
  constructor
  · induction lines using List.reverseRecOn with
    | nil => intro hload; cases hload
    | append_singleton lines line ih =>
      intro hload
      rw [numbered_append] at hload
      cases hlines : loadLines path [] (numbered number lines) with
      | error found =>
        cases (loadLines_append_of_error hlines _).symm.trans hload
        obtain ⟨before, other, earlier, hup, hrefused⟩ := ih hlines
        exact ⟨before, other, earlier, hup.append _, hrefused⟩
      | ok earlier =>
        have hlast := (loadLines_append_eq_error_iff hlines).1 hload
        rw [numbered_cons] at hlast
        split at hlast
        · cases hlast
        · rename_i hline
          obtain ⟨hmap, hdistinct, -⟩ := loadLines_eq_ok.1 hlines
          exact ⟨lines, line, earlier,
            ⟨⟨[], rfl⟩, Text.written_iff.2 hline, holds_iff.2 hmap, hdistinct⟩,
            loadLines_singleton_eq_error_iff.1 hlast⟩
  · rintro ⟨before, line, earlier, ⟨⟨after, rfl⟩, hwritten, hholds, hdistinct⟩, hrefused⟩
    have hbefore : loadLines path [] (numbered number before) = .ok earlier :=
      loadLines_eq_ok.2 ⟨holds_iff.1 hholds, hdistinct, by simp⟩
    rw [numbered_append, loadLines_append_eq_error_iff hbefore, numbered_cons,
      if_neg (Text.written_iff.1 hwritten), ← List.singleton_append]
    exact loadLines_append_of_error (loadLines_singleton_eq_error_iff.2 hrefused) _

/-- A file is refused exactly when it is read up to a line that is refused, and the number
of this line is the one that follows the lines before it. -/
theorem loadAll_eq_error_iff {error : FileError} :
    loadAll path text = .error error ↔
      ∃ before line earlier, ReadUpTo (Text.fileLines text) before line earlier ∧
        Refused path (before.length + 1) earlier line error := by
  simp only [Nat.add_comm _ 1]
  exact loadLines_eq_error_iff

/-! ## Repeated ids -/

/-- The flow on a line, lines being counted from zero. -/
def flowAt? (lines : List String) (place : Nat) : Option Flow :=
  lines[place]?.bind fun line => (ofLine (Text.trim line)).toOption

/-- The flow on a line has an id. -/
def HasIdAt (lines : List String) (place : Nat) (id : String) : Prop :=
  ∃ flow, flowAt? lines place = some flow ∧ flow.id = id

/-- The id on a line stands on an earlier line. -/
def Repeats (lines : List String) (place : Nat) (id : String) : Prop :=
  HasIdAt lines place id ∧ ∃ earlier < place, HasIdAt lines earlier id

/-- The flow on a line that is read. -/
theorem flowAt?_eq_some_iff {place : Nat} {flow : Flow} :
    flowAt? lines place = some flow ↔
      ∃ line, lines[place]? = some line ∧ ofLine (Text.trim line) = .ok flow := by
  rw [flowAt?, Option.bind_eq_some_iff]
  refine exists_congr fun line => and_congr_right fun _ => ?_
  cases ofLine (Text.trim line) <;> simp [Except.toOption]

/-- A line does not report a repeated id by itself. -/
theorem ofLine_ne_duplicate {line own id : String} {number : Nat} :
    ofLine line ≠ .error (.duplicate own number id) := by
  intro hread
  rw [ofLine] at hread
  split at hread
  · cases hread
  · split at hread <;> cases hread

/-- A flow that lines hold stands on one of them. -/
theorem Holds.exists_flowAt? (hholds : Holds lines flows) {flow : Flow} (hflow : flow ∈ flows) :
    ∃ place < lines.length, flowAt? lines place = some flow := by
  rw [hholds.eq_filterMap, List.mem_filterMap] at hflow
  obtain ⟨line, hline, hread⟩ := hflow
  obtain ⟨place, hplace, rfl⟩ := List.mem_iff_getElem.1 hline
  exact ⟨place, hplace, by rwa [flowAt?, List.getElem?_eq_getElem hplace, Option.bind_some]⟩

/-- On lines that hold flows with distinct ids no id is repeated. -/
theorem Holds.not_repeats (hholds : Holds lines flows) (hdistinct : (flows.map Flow.id).Nodup)
    (place : Nat) (id : String) : ¬ Repeats lines place id := by
  rintro ⟨⟨flow, hflow, rfl⟩, earlier, hearlier, other, hother, hid⟩
  rw [hholds.eq_filterMap, List.Nodup, List.pairwise_map, List.pairwise_filterMap,
    List.pairwise_iff_getElem] at hdistinct
  obtain ⟨line, hline, hflow⟩ := Option.bind_eq_some_iff.1 hflow
  obtain ⟨above, habove, hother⟩ := Option.bind_eq_some_iff.1 hother
  obtain ⟨hplace, rfl⟩ := List.getElem?_eq_some_iff.1 hline
  obtain ⟨hbefore, rfl⟩ := List.getElem?_eq_some_iff.1 habove
  exact hdistinct earlier place hbefore hplace hearlier other hother flow hflow hid

/-- A report about a repeated id has the number of the first line that repeats an id. -/
theorem first_repeat_of_duplicate {own id : String} {number : Nat}
    (hload : loadAll path text = .error (.duplicate own number id)) :
    own = path ∧ ∃ place, number = place + 1 ∧ Repeats (Text.fileLines text) place id ∧
      ∀ earlier < place, ∀ other, ¬ Repeats (Text.fileLines text) earlier other := by
  obtain ⟨before, line, earlier, hup, hrefused⟩ := loadAll_eq_error_iff.1 hload
  obtain ⟨after, hlines⟩ := hup.split
  have hbefore : ∀ place < before.length,
      flowAt? (Text.fileLines text) place = flowAt? before place := fun place hplace => by
    rw [flowAt?, hlines, List.getElem?_append_left hplace, flowAt?]
  cases hrefused with
  | unread hread => exact absurd hread ofLine_ne_duplicate
  | @repeated flow hread hid =>
    refine ⟨rfl, before.length, rfl, ⟨⟨flow, flowAt?_eq_some_iff.2 ⟨line, ?_, hread⟩, rfl⟩, ?_⟩, ?_⟩
    · simp [hlines]
    · obtain ⟨other, hother, hsame⟩ := List.mem_map.1 hid
      obtain ⟨place, hplace, hother⟩ := hup.holds.exists_flowAt? hother
      exact ⟨place, hplace, other, (hbefore place hplace).trans hother, hsame⟩
    · rintro place hplace other ⟨⟨flow, hflow, hid⟩, above, habove, own, hown, hsame⟩
      rw [hbefore place hplace] at hflow
      rw [hbefore above (habove.trans hplace)] at hown
      exact hup.holds.not_repeats hup.distinct place other
        ⟨⟨flow, hflow, hid⟩, above, habove, own, hown, hsame⟩

/-! ## The catalogue of a file -/

/-- The first flow of a file that is loaded is found without the others. -/
theorem loadFirst_of_loadAll (hload : loadAll path text = .ok flows) :
    loadFirst path text = (flows.head?.map .ok).getD (.error (.empty path)) := by
  obtain ⟨hmap, -⟩ := loadLines_eq_ok.1 hload
  rw [loadFirst]
  cases hlines : numberedLines text with
  | nil =>
    rw [hlines] at hmap
    rw [List.map_eq_nil_iff.1 hmap.symm]
    rfl
  | cons line lines =>
    rw [hlines] at hmap
    obtain ⟨flow, others, rfl, hflow, -⟩ := List.map_eq_cons_iff.1 hmap.symm
    exact hflow.symm

end Flow

namespace Catalogue

/-- Flows with distinct ids are registered. -/
theorem ofFlows_of_nodup {flows : List Flow} (hdistinct : (flows.map Flow.id).Nodup) :
    ofFlows flows = .ok ⟨flows, hdistinct⟩ := by
  rw [ofFlows]
  split
  · rename_i hrepeated
    cases hrepeated.symm.trans (Distinct.repeated?_eq_none_of_nodup hdistinct)
  · rfl

/-- A file whose lines hold flows with distinct ids is registered, whatever the
operations that are known. -/
theorem ofFile_of_holds {files : Files} {path text : String} {flows : List Flow}
    (hlook : files.look path = .ok (some text)) (hholds : Flow.Holds (Text.fileLines text) flows)
    (hdistinct : (flows.map Flow.id).Nodup) (known : Option (List String)) :
    let catalogue : Catalogue := ⟨flows, hdistinct⟩
    ofFile files path known = .ok (catalogue, catalogue.warnings known) := by
  intro catalogue
  have hload : Flow.loadAll (FileName.plain path) text = .ok flows :=
    Flow.loadAll_eq_ok_iff.2 ⟨hholds, hdistinct⟩
  simp only [ofFile, hlook, bind, Except.bind, hload, ofFlows_of_nodup hdistinct]
  rfl

end Catalogue

namespace Flow

/-- A file is loaded line by line.  It is loaded exactly when its lines that are not blank
hold flows with distinct ids, and as these flows, in order.  Then the catalogue of the file
has the same flows in the same order, whatever operations are known; it finds the flow of
each line under its id; and the first flow of the file is the first of these, if there is
one.  It is refused exactly when it is read up to a line that is refused.  If this is for a
repeated id, the report has the number, counted from one, of the first line whose id stands
on an earlier line. -/
theorem loads_line_by_line (path text : String) :
    (∀ flows, loadAll path text = .ok flows ↔
      Holds (Text.fileLines text) flows ∧ (flows.map Flow.id).Nodup) ∧
    (∀ flows, loadAll path text = .ok flows →
      loadFirst path text = (flows.head?.map .ok).getD (.error (.empty path)) ∧
      ∃ catalogue : Catalogue, catalogue.flows = flows ∧ catalogue.ids = flows.map Flow.id ∧
        (∀ files place known, Files.look files place = .ok (some text) →
          Catalogue.ofFile files place known = .ok (catalogue, catalogue.warnings known)) ∧
        ∀ place flow, flowAt? (Text.fileLines text) place = some flow →
          catalogue.find? flow.id = some flow) ∧
    (∀ error, loadAll path text = .error error ↔
      ∃ before line earlier, ReadUpTo (Text.fileLines text) before line earlier ∧
        Refused path (before.length + 1) earlier line error) ∧
    ∀ own number id, loadAll path text = .error (.duplicate own number id) →
      own = path ∧ ∃ place, number = place + 1 ∧ Repeats (Text.fileLines text) place id ∧
        ∀ earlier < place, ∀ other, ¬ Repeats (Text.fileLines text) earlier other := by
  refine ⟨fun flows => loadAll_eq_ok_iff, fun flows hload => ⟨loadFirst_of_loadAll hload, ?_⟩,
    fun error => loadAll_eq_error_iff, fun own number id => first_repeat_of_duplicate⟩
  obtain ⟨hholds, hdistinct⟩ := loadAll_eq_ok_iff.1 hload
  refine ⟨⟨flows, hdistinct⟩, rfl, rfl, fun files place known hlook =>
    Catalogue.ofFile_of_holds hlook hholds hdistinct known, fun place flow hflow => ?_⟩
  refine (Distinct.find?_eq_some_iff hdistinct).2 ⟨?_, rfl⟩
  obtain ⟨line, hline, hread⟩ := Option.bind_eq_some_iff.1 hflow
  rw [hholds.eq_filterMap]
  exact List.mem_filterMap.2 ⟨line, List.mem_of_getElem? hline, hread⟩

/-- Blank lines are skipped but counted: the third flow is on the fifth line, where the id of
the first one is repeated. -/
theorem loads_line_by_line_repeated :
    let reply (id : String) : Flow :=
      ⟨id, "", "", .none, "say", [("say", ⟨"say", "say", none, .response "Hi"⟩)]⟩
    let shown (id : String) : String := String.ofList (reply id).line
    let text := "\r\n" ++ shown "a" ++ "\x0b \r" ++ shown "b"
    loadAll "flows.jsonl" text = .ok [reply "a", reply "b"] ∧
      loadFirst "flows.jsonl" text = .ok (reply "a") ∧
      loadAll "flows.jsonl" (text ++ "\n" ++ shown "a") =
        .error (.duplicate "flows.jsonl" 5 "a") := by
  intro reply shown text
  have hsavable : ∀ id, (reply id).Savable := by
    intro id
    let step : Value := .object [("type", .text "response"), ("response", .text "Hi")]
    let raw : Value := .object
      [ ("id", .text id), ("name", .text ""), ("initial_step", .text "say"),
        ("steps", .object [("say", step)]) ]
    have hproper : raw.Proper := by simp [raw, step, Value.Proper, Value.ProperFields, Table.names]
    exact ⟨settled_of_read hproper rfl, by simp [reply, freeParts, Table.values, Action.freeParts],
      by simp [reply, freeParts, Table.values, Action.freeParts]⟩
  have hread : ∀ id, (reply id).Readable → ofLine (Text.trim (shown id)) = .ok (reply id) := by
    intro id hreadable
    rw [(block_line (reply id)).trim_eq]
    exact (ofLine_line (hsavable id)).2 hreadable
  have hwritten : ∀ id, Text.Written (shown id) := fun id =>
    ⟨'\x7b', by simp [shown, line, value, Json.write], by decide⟩
  have hfirst : ofLine (Text.trim (shown "a")) = .ok (reply "a") := hread "a" (by decide +kernel)
  have hsecond : ofLine (Text.trim (shown "b")) = .ok (reply "b") := hread "b" (by decide +kernel)
  have hholds : Holds ["", shown "a", " ", shown "b"] [reply "a", reply "b"] := by
    have hkept : ["", shown "a", " ", shown "b"].filter Text.Written = [shown "a", shown "b"] := by
      have hempty : ¬ Text.Written "" := by simp [Text.Written]
      have hblank : ¬ Text.Written " " := by simp [Text.Written, Text.isBlank]
      simp [hwritten, hempty, hblank]
    rw [Holds, hkept]
    exact .cons hfirst (.cons hsecond .nil)
  have hdistinct : ([reply "a", reply "b"].map Flow.id).Nodup := by simp [reply]
  have hlines : Text.fileLines text = ["", shown "a", " ", shown "b"] := by
    have hcut : Text.linesFrom [] (Text.unifyBreaks ('\r' :: '\n' ::
        ((reply "a").line ++ '\x0b' :: ' ' :: '\r' :: (reply "b").line))) =
        [[], (reply "a").line, [' '], (reply "b").line] := by decide +kernel
    simp [Text.fileLines, text, shown, hcut]
  have hmore : Text.fileLines (text ++ "\n" ++ shown "a") =
      ["", shown "a", " ", shown "b"] ++ [shown "a"] := by
    have hcut : Text.linesFrom [] (Text.unifyBreaks ('\r' :: '\n' :: ((reply "a").line ++
        '\x0b' :: ' ' :: '\r' :: ((reply "b").line ++ '\n' :: (reply "a").line)))) =
        [[], (reply "a").line, [' '], (reply "b").line, (reply "a").line] := by decide +kernel
    simp [Text.fileLines, text, shown, hcut]
  have hload : loadAll "flows.jsonl" text = .ok [reply "a", reply "b"] :=
    ((loads_line_by_line "flows.jsonl" text).1 _).2 ⟨hlines ▸ hholds, hdistinct⟩
  refine ⟨hload, ((loads_line_by_line "flows.jsonl" text).2.1 _ hload).1, ?_⟩
  refine ((loads_line_by_line "flows.jsonl" (text ++ "\n" ++ shown "a")).2.2.1 _).2
    ⟨_, _, _, ⟨⟨[], hmore⟩, hwritten "a", hholds, hdistinct⟩, ?_⟩
  exact .repeated hfirst (by simp)

end Flow

end FlowDesk
