/-
# What a log keeps

A log with room for a note keeps the newest notes that it was given, as many as
there is room for, and counts the others.  This is an invariant of one note
(`Log.Keeps.emit`), so it holds after any number of them; in particular a log
with room never refuses a note.  A run of notes passes through the logs that its
first notes lead to (`Log.emitAll?_append`), so it holds all along the way as well
(`newest_notes_kept`).
-/

import FlowDesk.Run.Log
import Mathlib.Data.List.DropRight

namespace FlowDesk.Log

/-- A log keeps what it should of some notes: the last of them, in order and
with the name of its flow, as far as there is room, and the number of the
rest. -/
structure Keeps (log : Log) (notes : List Note) : Prop where
  entries : log.entries = (notes.map (Entry.mk log.flow)).rtake log.capacity.toNat
  dropped : log.dropped = notes.length - log.capacity.toNat

/-- A log without notes keeps what it should of none. -/
theorem empty_keeps (flow : String) (capacity : Int) : (empty flow capacity).Keeps [] :=
  ⟨by simp [empty], by simp [empty]⟩

variable {log : Log} {notes : List Note}

/-- A log keeps no more notes than there is room for, and no more than it was
given. -/
theorem Keeps.length_entries (hkeeps : log.Keeps notes) :
    log.entries.length = min log.capacity.toNat notes.length := by
  rw [hkeeps.entries, List.rtake, List.length_drop, List.length_map]
  omega

/-- A log with room takes a further note, and keeps what it should of all. -/
theorem Keeps.emit (hkeeps : log.Keeps notes) (hroom : 1 ≤ log.capacity) (note : Note) :
    ∃ next, log.emit? note = some next ∧ next.Keeps (notes ++ [note]) ∧
      next.flow = log.flow ∧ next.capacity = log.capacity := by
  obtain ⟨room, hcapacity⟩ : ∃ room, log.capacity.toNat = room + 1 :=
    ⟨log.capacity.toNat - 1, by omega⟩
  have hlength := hkeeps.length_entries
  have hentries := hkeeps.entries
  have hdropped := hkeeps.dropped
  rw [hcapacity] at hlength hentries hdropped
  have htaken : ((notes ++ [note]).map (Entry.mk log.flow)).rtake (room + 1) =
      (notes.map (Entry.mk log.flow)).rtake room ++ [⟨log.flow, note⟩] := by
    rw [List.map_append, List.map_singleton, List.rtake_concat_succ]
  by_cases hfree : (log.entries.length : Int) < log.capacity
  · have hshort : notes.length ≤ room := by omega
    have hemit : log.emit? note =
        some { log with entries := log.entries ++ [⟨log.flow, note⟩] } := by
      rw [emit?, if_pos hfree]
    refine ⟨_, hemit, ⟨?_, ?_⟩, rfl, rfl⟩
    · simp only [hcapacity]
      rw [htaken, hentries, List.rtake, List.rtake, List.length_map,
        Nat.sub_eq_zero_of_le (Nat.le_succ_of_le hshort), Nat.sub_eq_zero_of_le hshort]
    · simp only [hcapacity, List.length_append, List.length_singleton]
      omega
  · have hfull : room + 1 ≤ notes.length := by omega
    cases hold : log.entries with
    | nil =>
      rw [hold, List.length_nil] at hlength
      omega
    | cons oldest newer =>
      have hnewer : newer = (notes.map (Entry.mk log.flow)).rtake room := by
        have htail := congrArg List.tail (hold.symm.trans hentries)
        rw [List.tail_cons, List.rtake, List.tail_drop, List.length_map] at htail
        rw [htail, List.rtake, List.length_map]
        congr 1
        omega
      have hemit : log.emit? note = some { log with
          entries := newer ++ [⟨log.flow, note⟩]
          dropped := log.dropped + 1 } := by
        rw [emit?, if_neg hfree, hold]
      refine ⟨_, hemit, ⟨?_, ?_⟩, rfl, rfl⟩
      · simp only [hcapacity]
        rw [htaken, hnewer]
      · simp only [hcapacity, List.length_append, List.length_singleton]
        omega

/-- A log with room takes any notes, one after the other, and keeps what it
should of all. -/
theorem Keeps.emitAll (hkeeps : log.Keeps notes) (hroom : 1 ≤ log.capacity)
    (later : List Note) :
    ∃ next, log.emitAll? later = some next ∧ next.Keeps (notes ++ later) ∧
      next.flow = log.flow ∧ next.capacity = log.capacity := by
  induction later generalizing log notes with
  | nil => exact ⟨log, rfl, by simpa using hkeeps, rfl, rfl⟩
  | cons note later ih =>
    obtain ⟨first, hemit, hfirst, hflow, hcapacity⟩ := hkeeps.emit hroom note
    obtain ⟨next, hall, hnext, hflow', hcapacity'⟩ := ih hfirst (hcapacity ▸ hroom)
    refine ⟨next, by rw [emitAll?, hemit, Option.bind_some, hall], ?_, hflow'.trans hflow,
      hcapacity'.trans hcapacity⟩
    simpa using hnext

/-- Notes in two parts are taken part by part. -/
theorem emitAll?_append (log : Log) (earlier later : List Note) :
    log.emitAll? (earlier ++ later) =
      (log.emitAll? earlier).bind fun next => next.emitAll? later := by
  induction earlier generalizing log with
  | nil => rfl
  | cons note earlier ih => simp only [List.cons_append, emitAll?, Option.bind_assoc, ih]

/-- What is kept are the last notes, as many as are there and have room. -/
theorem Keeps.entries_eq (hkeeps : log.Keeps notes) :
    log.entries =
      (notes.rtake (min notes.length log.capacity.toNat)).map (Entry.mk log.flow) := by
  have hcount : notes.length - min notes.length log.capacity.toNat =
      notes.length - log.capacity.toNat := by omega
  rw [hkeeps.entries, List.rtake, List.rtake, List.length_map, List.map_drop, hcount]

/-- The notes that were dropped and those that are kept are all that there were. -/
theorem Keeps.dropped_add_length (hkeeps : log.Keeps notes) :
    log.dropped + log.entries.length = notes.length := by
  rw [hkeeps.dropped, hkeeps.length_entries]
  omega

/-- **A log keeps the newest notes.**  Let notes be given to an empty log with room for
one at least.  At every point on the way, some notes being given and others to come, there
is a log, and the others are taken from there.  It holds the last of the notes given, in
their order and as they are, each with the flow of the log.  They are as many as there are
and have room, and together with those that it has counted as dropped they are all. -/
theorem newest_notes_kept (flow : String) {capacity : Int} (hroom : 1 ≤ capacity)
    (given others : List Note) :
    ∃ log, (empty flow capacity).emitAll? given = some log ∧
      (∃ final, (empty flow capacity).emitAll? (given ++ others) = some final ∧
        log.emitAll? others = some final) ∧
      log.entries =
        (given.rtake (min given.length capacity.toNat)).map (Entry.mk flow) ∧
      log.entries.length = min given.length capacity.toNat ∧
      log.dropped + log.entries.length = given.length := by
  obtain ⟨log, hlog, hkeeps, (hflow : log.flow = flow), (hcapacity : log.capacity = capacity)⟩ :=
    (empty_keeps flow capacity).emitAll hroom given
  rw [List.nil_append] at hkeeps
  obtain ⟨final, hfinal, -⟩ := hkeeps.emitAll (hcapacity ▸ hroom) others
  have hentries := hkeeps.entries_eq
  rw [hflow, hcapacity] at hentries
  refine ⟨log, hlog, ⟨final, ?_, hfinal⟩, hentries, ?_, hkeeps.dropped_add_length⟩
  · rw [emitAll?_append, hlog, Option.bind_some, hfinal]
  · rw [hkeeps.length_entries, hcapacity, min_comm]

/-- With room for two, the third note drops the first one, and the fourth the second. -/
theorem newest_notes_kept_of_four :
    let note (step : String) : Note := ⟨"step_started", step, .null⟩
    ∃ log final, (empty "greet" 2).emitAll? [note "a", note "b", note "c"] = some log ∧
      log.entries = [⟨"greet", note "b"⟩, ⟨"greet", note "c"⟩] ∧ log.dropped = 1 ∧
      log.emitAll? [note "d"] = some final ∧
      final.entries = [⟨"greet", note "c"⟩, ⟨"greet", note "d"⟩] ∧ final.dropped = 2 := by
  intro note
  obtain ⟨log, hlog, ⟨final, hall, hfinal⟩, hentries, hlength, hcount⟩ :=
    @newest_notes_kept "greet" 2 (by decide) [note "a", note "b", note "c"] [note "d"]
  obtain ⟨last, hlast, -, hnewest, hlength', hcount'⟩ :=
    @newest_notes_kept "greet" 2 (by decide) [note "a", note "b", note "c", note "d"] []
  cases hall.symm.trans hlast
  rw [hlength] at hcount
  rw [hlength'] at hcount'
  exact ⟨log, final, hlog, hentries, by simpa using hcount, hfinal, hnewest, by simpa using hcount'⟩

end FlowDesk.Log
