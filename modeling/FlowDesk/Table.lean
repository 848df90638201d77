/-
# Insertion-ordered tables

A table lists its entries in the order in which their names were first put
in. Replacing the value of a name keeps its place.
-/

namespace FlowDesk

/-- Entries by name, in order of first insertion. -/
abbrev Table (α : Type) := List (String × α)

namespace Table

variable {α : Type}

/-- The value of the first entry with a name. -/
def at? : Table α → String → Option α
  | [], _ => none
  | (key, value) :: rest, name => if key = name then some value else at? rest name

/-- Whether a name has an entry. -/
def has (table : Table α) (name : String) : Bool :=
  (table.at? name).isSome

/-- Give a name a value: in place when the name is known, else at the end. -/
def put : Table α → String → α → Table α
  | [], name, value => [(name, value)]
  | (key, old) :: rest, name, value =>
    if key = name then (key, value) :: rest else (key, old) :: put rest name value

/-- The names in order. -/
def names (table : Table α) : List String :=
  table.map Prod.fst

/-- The values in order. -/
def values (table : Table α) : List α :=
  table.map Prod.snd

/-- Put entries in one after the other. -/
def putAll (table : Table α) (entries : List (String × α)) : Table α :=
  entries.foldl (fun sofar entry => sofar.put entry.1 entry.2) table

/-- The table of a list of entries; of equal names the last value counts, at
the place of the first. -/
def ofEntries (entries : List (String × α)) : Table α :=
  putAll [] entries

@[simp] theorem at?_nil (name : String) : at? ([] : Table α) name = none := rfl

theorem at?_cons (key name : String) (value : α) (rest : Table α) :
    at? ((key, value) :: rest) name = if key = name then some value else at? rest name := rfl

/-- What was put in is found again, and nothing else changes. -/
theorem at?_put (table : Table α) (name other : String) (value : α) :
    (table.put name value).at? other = if name = other then some value else table.at? other := by
  induction table with
  | nil => simp [put, at?]
  | cons entry rest ih =>
    obtain ⟨key, old⟩ := entry
    by_cases hkey : key = name
    · subst hkey
      by_cases hother : key = other <;> simp [put, at?, hother]
    · simp only [put, hkey, if_false, at?_cons, ih]
      by_cases hother : key = other
      · have hname : name ≠ other := fun h => hkey (hother.trans h.symm)
        simp [hother, hname]
      · simp [hother]

/-- A name keeps its place when its value is replaced, and otherwise goes last. -/
theorem names_put (table : Table α) (name : String) (value : α) :
    (table.put name value).names = if name ∈ table.names then table.names
      else table.names ++ [name] := by
  induction table with
  | nil => simp [put, names]
  | cons entry rest ih =>
    obtain ⟨key, old⟩ := entry
    by_cases hkey : key = name
    · simp [put, names, hkey]
    · have hne : name ≠ key := fun h => hkey h.symm
      simp only [names] at ih ⊢
      simp only [put, hkey, if_false, List.map_cons, ih, List.mem_cons, hne, false_or]
      by_cases hname : name ∈ List.map Prod.fst rest <;> simp [hname]

end Table

end FlowDesk
