/-
# When a form is valid

A form is valid exactly when each of its parts is, and then it holds what its
parts hold.  With these equivalences a successful check is taken apart into the
values that were found in the fields, and a check is seen to succeed from what
stands in them.
-/

import FlowDesk.Form.Scalar

namespace FlowDesk.Checked

variable {α β : Type}

/-- A changed value is valid when the value is. -/
theorem map_eq_valid {f : α → β} {x : Checked α} {b : β} :
    f <$> x = .valid b ↔ ∃ a, x = .valid a ∧ f a = b := by
  cases x with
  | valid a => simp [Functor.map, map]
  | invalid problems => simp [Functor.map, map]

/-- A combination is valid when both parts are. -/
theorem seq_eq_valid {f : Checked (α → β)} {x : Checked α} {b : β} :
    f <*> x = .valid b ↔ ∃ g a, f = .valid g ∧ x = .valid a ∧ g a = b := by
  cases f <;> cases x <;> simp [Seq.seq, both]

/-- The place of a check does not matter to its success. -/
theorem within_eq_valid {place : Place} {x : Checked α} {a : α} :
    x.within place = .valid a ↔ x = .valid a := by
  cases x <;> simp [within]

/-- A further check comes after the first one succeeds. -/
theorem andThen_eq_valid {x : Checked α} {next : α → Checked β} {b : β} :
    x.andThen next = .valid b ↔ ∃ a, x = .valid a ∧ next a = .valid b := by
  cases x <;> simp [andThen]

/-- A required field is valid when it is there and what it holds is. -/
theorem required_eq_valid {fields : Fields} {name : String} {check : Value → Checked α} {a : α} :
    required fields name check = .valid a ↔
      ∃ v, Table.at? fields name = some v ∧ check v = .valid a := by
  rw [required, within_eq_valid]
  cases Table.at? fields name <;> simp [mismatch]

/-- An optional field is valid when what it holds is, or when it is absent. -/
theorem optional_eq_valid {fields : Fields} {name : String} {default : α}
    {check : Value → Checked α} {a : α} :
    optional fields name default check = .valid a ↔
      (∃ v, Table.at? fields name = some v ∧ check v = .valid a) ∨
        (Table.at? fields name = none ∧ default = a) := by
  rw [optional]
  cases Table.at? fields name <;> simp [within_eq_valid]

/-! ## Contents -/

/-- Anything goes for a value of any kind. -/
theorem anything_eq (v : Value) : anything v = .valid v := rfl

/-- Only a text is a text. -/
theorem text_eq_valid {v : Value} {s : String} : text v = .valid s ↔ v = .text s := by
  cases v <;> simp [text, mismatch]

/-- Only an object has fields. -/
theorem fields_eq_valid {v : Value} {given : Fields} :
    fields v = .valid given ↔ v = .object given := by
  cases v <;> simp [fields, mismatch]

/-- A list of texts is read as it is written. -/
theorem texts_ofTexts (given : List String) : texts (.ofTexts given) = .valid given := by
  have hitems : ∀ index, items text index (given.map .text) = .valid given := by
    induction given with
    | nil => exact fun _ => rfl
    | cons s given ih =>
      intro index
      rw [List.map_cons, items, seq_eq_valid]
      exact ⟨_, _, map_eq_valid.2 ⟨s, rfl, rfl⟩, ih _, rfl⟩
  exact hitems 0

/-- An optional text is read as it is written. -/
theorem nullable_ofText? (given : Option String) :
    nullable text (.ofText? given) = .valid given := by
  cases given <;> rfl

/-! ## Entries -/

/-- Entries are valid when the first one and the others are. -/
theorem entries_cons_eq_valid {check : Value → Checked α} {name : String} {v : Value}
    {rest : Fields} {table : Table α} :
    entries check ((name, v) :: rest) = .valid table ↔
      ∃ a others, check v = .valid a ∧ entries check rest = .valid others ∧
        (name, a) :: others = table := by
  rw [entries, seq_eq_valid]
  simp only [map_eq_valid, within_eq_valid]
  constructor
  · rintro ⟨g, others, ⟨a, ha, rfl⟩, hothers, rfl⟩
    exact ⟨a, others, ha, hothers, rfl⟩
  · rintro ⟨a, others, ha, hothers, rfl⟩
    exact ⟨_, others, ⟨a, ha, rfl⟩, hothers, rfl⟩

/-- Valid entries keep their names. -/
theorem names_entries {check : Value → Checked α} {fields : Fields} {table : Table α}
    (hvalid : entries check fields = .valid table) : table.names = Table.names fields := by
  induction fields generalizing table with
  | nil =>
    cases hvalid
    rfl
  | cons entry rest ih =>
    obtain ⟨a, others, -, hothers, rfl⟩ := entries_cons_eq_valid.1 hvalid
    rw [Table.names, List.map_cons, ← Table.names, ih hothers]
    rfl

/-- Every valid entry was read from the field of its name. -/
theorem mem_entries {check : Value → Checked α} {fields : Fields} {table : Table α}
    (hvalid : entries check fields = .valid table) :
    ∀ entry ∈ table, ∃ v, (entry.1, v) ∈ fields ∧ check v = .valid entry.2 := by
  induction fields generalizing table with
  | nil =>
    cases hvalid
    simp
  | cons first rest ih =>
    obtain ⟨a, others, ha, hothers, rfl⟩ := entries_cons_eq_valid.1 hvalid
    intro entry hentry
    rcases List.mem_cons.1 hentry with rfl | hmem
    · exact ⟨first.2, List.mem_cons_self, ha⟩
    · obtain ⟨v, hv, hread⟩ := ih hothers entry hmem
      exact ⟨v, List.mem_cons_of_mem _ hv, hread⟩

/-- Entries that are written as they are read are read as they were. -/
theorem entries_map {check : Value → Checked α} {write : α → Value} {table : Table α}
    (hread : ∀ entry ∈ table, check (write entry.2) = .valid entry.2) :
    entries check (table.map fun entry => (entry.1, write entry.2)) = .valid table := by
  induction table with
  | nil => rfl
  | cons entry rest ih =>
    rw [List.map_cons, entries_cons_eq_valid]
    exact ⟨_, _, hread entry List.mem_cons_self,
      ih fun other hother => hread other (List.mem_cons_of_mem _ hother), rfl⟩

end FlowDesk.Checked
