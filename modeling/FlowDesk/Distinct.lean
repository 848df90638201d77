/-
# Names that do not repeat

Flows are found by id and operations by name, so a collection of either may
hold a name only once. The check finds the first name that occurs again.
-/

namespace FlowDesk.Distinct

/-- The first of some names that occurs again, given the names before. -/
def repeatedAfter? (seen : List String) : List String → Option String
  | [] => none
  | name :: rest => if seen.contains name then some name else repeatedAfter? (name :: seen) rest

/-- The first name that occurs again. -/
def repeated? (names : List String) : Option String := repeatedAfter? [] names

theorem nodup_of_repeatedAfter?_eq_none (seen names : List String)
    (hnone : repeatedAfter? seen names = none) :
    names.Nodup ∧ ∀ name ∈ names, name ∉ seen := by
  induction names generalizing seen with
  | nil => simp
  | cons name rest ih =>
    simp only [repeatedAfter?] at hnone
    split at hnone
    · cases hnone
    · rename_i hseen
      obtain ⟨hrest, hfresh⟩ := ih (name :: seen) hnone
      simp only [List.nodup_cons, List.mem_cons, forall_eq_or_imp]
      refine ⟨⟨fun hmem => ?_, hrest⟩, by simpa using hseen, fun other hother hmem => ?_⟩
      · exact hfresh _ hmem (List.mem_cons_self ..)
      · exact hfresh other hother (List.mem_cons_of_mem _ hmem)

/-- Names without a repeated one are distinct. -/
theorem nodup_of_repeated?_eq_none (names : List String) (hnone : repeated? names = none) :
    names.Nodup :=
  (nodup_of_repeatedAfter?_eq_none [] names hnone).1

theorem repeatedAfter?_eq_none_of_nodup {seen names : List String} (hdistinct : names.Nodup)
    (hfresh : ∀ name ∈ names, name ∉ seen) : repeatedAfter? seen names = none := by
  induction names generalizing seen with
  | nil => rfl
  | cons name rest ih =>
    obtain ⟨hname, hrest⟩ := List.nodup_cons.1 hdistinct
    obtain ⟨hnew, hothers⟩ := List.forall_mem_cons.1 hfresh
    rw [repeatedAfter?, if_neg (by simpa using hnew)]
    refine ih hrest fun other hother hmem => ?_
    rcases List.mem_cons.1 hmem with rfl | hmem
    · exact hname hother
    · exact hothers other hother hmem

/-- Of distinct names none is repeated. -/
theorem repeated?_eq_none_of_nodup {names : List String} (hdistinct : names.Nodup) :
    repeated? names = none :=
  repeatedAfter?_eq_none_of_nodup hdistinct fun _ _ => List.not_mem_nil

/-- Of things with distinct names, the one with a name is found by it. -/
theorem find?_eq_some_iff {α : Type} {name : α → String} {items : List α}
    (hdistinct : (items.map name).Nodup) {wanted : String} {item : α} :
    (items.find? fun other => name other == wanted) = some item ↔
      item ∈ items ∧ name item = wanted := by
  induction items with
  | nil => simp
  | cons first rest ih =>
    rw [List.map_cons, List.nodup_cons] at hdistinct
    rw [List.find?_cons, List.mem_cons]
    by_cases hfirst : name first = wanted
    · have hother : item ∈ rest → name item ≠ wanted := fun hmem hname =>
        hdistinct.1 (hfirst ▸ hname ▸ List.mem_map_of_mem hmem)
      simp only [beq_iff_eq.2 hfirst, Option.some.injEq]
      constructor
      · rintro rfl
        exact ⟨.inl rfl, hfirst⟩
      · rintro ⟨rfl | hmem, hname⟩
        · rfl
        · exact absurd hname (hother hmem)
    · simp only [beq_eq_false_iff_ne.2 hfirst, ih hdistinct.2]
      constructor
      · rintro ⟨hmem, hname⟩
        exact ⟨.inr hmem, hname⟩
      · rintro ⟨rfl | hmem, hname⟩
        · exact absurd hname hfirst
        · exact ⟨hmem, hname⟩

end FlowDesk.Distinct
