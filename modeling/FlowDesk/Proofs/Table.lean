/-
# Tables with distinct names

Putting an entry in keeps the names of a table distinct, and what a table has then is
the new entry or was there before.  Entries whose names are distinct already are a
table as they stand (`ofEntries_eq`).
-/

import FlowDesk.Table

namespace FlowDesk.Table

variable {α : Type}

/-- A table has what it gives back. -/
theorem mem_of_at?_eq_some {table : Table α} {name : String} {value : α}
    (hfound : table.at? name = some value) : (name, value) ∈ table := by
  induction table with
  | nil => cases hfound
  | cons entry rest ih =>
    obtain ⟨key, own⟩ := entry
    rw [at?_cons] at hfound
    split at hfound
    · rename_i hkey
      cases hfound
      simp [hkey]
    · exact List.mem_cons_of_mem _ (ih hfound)

/-- The name of an entry is among the names. -/
theorem mem_names_of_has {table : Table α} {name : String} (hhas : table.has name) :
    name ∈ table.names := by
  obtain ⟨value, hvalue⟩ := Option.isSome_iff_exists.1 hhas
  exact List.mem_map.2 ⟨_, mem_of_at?_eq_some hvalue, rfl⟩

/-- Only a name of a table is found in it. -/
theorem at?_eq_none {table : Table α} {name : String} (hname : name ∉ table.names) :
    table.at? name = none := by
  cases hfound : table.at? name with
  | none => rfl
  | some value => exact absurd (List.mem_map.2 ⟨_, mem_of_at?_eq_some hfound, rfl⟩) hname

/-- What is not found in a table is none of its names. -/
theorem not_mem_names_of_at?_eq_none {table : Table α} {name : String}
    (hnone : table.at? name = none) : name ∉ table.names := by
  induction table with
  | nil => exact List.not_mem_nil
  | cons entry rest ih =>
    obtain ⟨key, value⟩ := entry
    rw [at?_cons] at hnone
    split at hnone
    · cases hnone
    · rename_i hkey
      exact List.not_mem_cons_of_ne_of_not_mem (Ne.symm hkey) (ih hnone)

/-- An entry of a table with distinct names is what is found under its name. -/
theorem at?_of_mem {table : Table α} (hdistinct : table.names.Nodup) {name : String} {value : α}
    (hmem : (name, value) ∈ table) : table.at? name = some value := by
  induction table with
  | nil => cases hmem
  | cons entry rest ih =>
    obtain ⟨key, own⟩ := entry
    obtain ⟨hkey, hrest⟩ := List.nodup_cons.1 hdistinct
    rw [at?_cons]
    rcases List.mem_cons.1 hmem with heq | hmem
    · cases heq
      exact if_pos rfl
    · rw [if_neg, ih hrest hmem]
      rintro rfl
      exact hkey (List.mem_map.2 ⟨_, hmem, rfl⟩)

/-- What is found in two tables, one after the other, is what the first one has, or else
the second. -/
theorem at?_append (first second : Table α) (name : String) :
    at? (first ++ second) name = (first.at? name).or (second.at? name) := by
  induction first with
  | nil => rfl
  | cons entry rest ih =>
    obtain ⟨key, value⟩ := entry
    rw [List.cons_append, at?_cons, at?_cons, ih]
    split <;> rfl

/-! ## Putting entries in -/

/-- A new name goes last. -/
theorem put_of_not_mem {table : Table α} {name : String} (hname : name ∉ table.names) (value : α) :
    table.put name value = table ++ [(name, value)] := by
  induction table with
  | nil => rfl
  | cons entry rest ih =>
    obtain ⟨key, old⟩ := entry
    simp only [names, List.map_cons, List.mem_cons, not_or] at hname ih
    rw [put, if_neg (Ne.symm hname.1), ih hname.2]
    rfl

/-- New entries go last, in their order. -/
theorem putAll_eq_append {entries table : Table α} (hdistinct : (table ++ entries).names.Nodup) :
    putAll table entries = table ++ entries := by
  induction entries generalizing table with
  | nil => exact (List.append_nil table).symm
  | cons entry entries ih =>
    obtain ⟨name, value⟩ := entry
    have hname : name ∉ table.names := by
      intro hmem
      simp only [names, List.map_append, List.map_cons] at hdistinct hmem
      exact (List.nodup_append.1 hdistinct).2.2 name hmem name List.mem_cons_self rfl
    have hsplit : table ++ (name, value) :: entries = table ++ [(name, value)] ++ entries := by
      rw [List.append_assoc]
      rfl
    rw [hsplit] at hdistinct ⊢
    rw [← put_of_not_mem hname] at hdistinct ⊢
    exact ih hdistinct

/-- After entries with distinct names are put in, each of them is found, and everything
else as before. -/
theorem at?_putAll {entries : Table α} (hdistinct : entries.names.Nodup) (table : Table α)
    (name : String) : (table.putAll entries).at? name = (entries.at? name).or (table.at? name) := by
  induction entries generalizing table with
  | nil => rfl
  | cons entry rest ih =>
    obtain ⟨key, value⟩ := entry
    obtain ⟨hkey, hrest⟩ := List.nodup_cons.1 hdistinct
    have hput : table.putAll ((key, value) :: rest) = (table.put key value).putAll rest := rfl
    rw [hput, ih hrest, at?_put, at?_cons]
    by_cases hname : key = name
    · subst hname
      rw [if_pos rfl, if_pos rfl, at?_eq_none hkey]
      rfl
    · rw [if_neg hname, if_neg hname]

/-- Entries whose names a table has already do not change its names. -/
theorem names_putAll {entries table : Table α}
    (hnames : ∀ name ∈ entries.names, name ∈ table.names) :
    (table.putAll entries).names = table.names := by
  induction entries generalizing table with
  | nil => rfl
  | cons entry rest ih =>
    obtain ⟨key, value⟩ := entry
    obtain ⟨hkey, hrest⟩ := List.forall_mem_cons.1 hnames
    have hput : (table.put key value).names = table.names := by rw [names_put, if_pos hkey]
    have hall : table.putAll ((key, value) :: rest) = (table.put key value).putAll rest := rfl
    rw [hall, ih (hput ▸ hrest), hput]

/-- Entries with distinct names are a table as they stand. -/
theorem ofEntries_eq {entries : Table α} (hdistinct : entries.names.Nodup) :
    ofEntries entries = entries := by
  have hempty : (names (([] : Table α) ++ entries)).Nodup := hdistinct
  exact putAll_eq_append hempty

/-- Putting an entry in keeps names distinct. -/
theorem nodup_put {table : Table α} (hdistinct : table.names.Nodup) (name : String) (value : α) :
    (table.put name value).names.Nodup := by
  rw [names_put]
  split
  · exact hdistinct
  · rename_i hname
    exact List.nodup_append.2 ⟨hdistinct, by simp, fun key hkey other hother => by
      rw [List.mem_singleton.1 hother]
      rintro rfl
      exact hname hkey⟩

/-- What was put in is new or was there before. -/
theorem mem_put {table : Table α} {name : String} {value : α} {entry : String × α}
    (hentry : entry ∈ table.put name value) : entry = (name, value) ∨ entry ∈ table := by
  induction table with
  | nil => exact .inl (List.mem_singleton.1 hentry)
  | cons first rest ih =>
    obtain ⟨key, old⟩ := first
    rw [put] at hentry
    split at hentry
    · rename_i hkey
      rcases List.mem_cons.1 hentry with rfl | hmem
      · exact .inl (by rw [hkey])
      · exact .inr (List.mem_cons_of_mem _ hmem)
    · rcases List.mem_cons.1 hentry with rfl | hmem
      · exact .inr List.mem_cons_self
      · exact (ih hmem).imp_right (List.mem_cons_of_mem _)

end FlowDesk.Table
