import Questionnaire.Dictionary

/-!
Looking keys up in a dictionary.

To put an entry in changes what is found under its key and nothing else: `get?_insert`. So a dictionary
that is made of a list of entries has its keys, and under each of them the last of its values.
-/

namespace Questionnaire.Dictionary

variable {α : Type} {key other : String} {value : α} {entries sorted : List (String × α)}

/-! ### Keys and values -/

@[simp] theorem get?_nil : get? key ([] : List (String × α)) = none := rfl

theorem get?_cons (key other : String) (value : α) (entries : List (String × α)) :
    get? other ((key, value) :: entries) = if other = key then some value else get? other entries := by
  unfold get?
  by_cases same : other = key
  · simp [same]
  · have apart : (key == other) = false := beq_false_of_ne (Ne.symm same)
    simp [same, apart]

theorem get?_append : get? key (entries ++ sorted) = (get? key entries).or (get? key sorted) := by
  unfold get?
  rw [List.find?_append]
  cases entries.find? (·.1 == key) <;> rfl

theorem get?_isSome : (get? key entries).isSome = true ↔ key ∈ entries.map (·.1) := by
  simp [get?]

theorem mem_of_get? (found : get? key entries = some value) : (key, value) ∈ entries := by
  obtain ⟨⟨k, v⟩, listed, rfl⟩ := Option.map_eq_some_iff.mp found
  have same : k = key := by simpa using List.find?_some listed
  exact same ▸ List.mem_of_find?_eq_some listed

theorem get?_insert (key other : String) (value : α) (entries : List (String × α)) :
    get? other (insert key value entries) = if other = key then some value else get? other entries := by
  induction entries with
  | nil => exact get?_cons key other value []
  | cons entry rest ih =>
    obtain ⟨k, v⟩ := entry
    unfold insert
    by_cases same : key = k
    · subst same
      rw [if_pos rfl]
      simp only [get?_cons]
      split <;> rfl
    · rw [if_neg same]
      split
      · exact get?_cons key other value _
      · rw [get?_cons, get?_cons, ih]
        by_cases here : other = k
        · rw [if_pos here, if_pos here, if_neg fun there => same (there.symm.trans here)]
        · rw [if_neg here, if_neg here]

/-! ### Lists of entries -/

theorem get?_ofList (key : String) (entries : List (String × α)) :
    get? key (ofList entries) = get? key entries.reverse := by
  have folded (entries sorted : List (String × α)) :
      get? key (entries.foldl (fun sorted entry => insert entry.1 entry.2 sorted) sorted) =
        (get? key entries.reverse).or (get? key sorted) := by
    induction entries generalizing sorted with
    | nil => rfl
    | cons entry rest ih =>
      rw [List.foldl_cons, ih, get?_insert, List.reverse_cons, get?_append, get?_cons, Option.or_assoc]
      split <;> simp
  have whole := folded entries []
  rw [get?_nil, Option.or_none] at whole
  exact whole

theorem mem_keys_ofList : key ∈ (ofList entries).map (·.1) ↔ key ∈ entries.map (·.1) := by
  rw [← get?_isSome, get?_ofList, get?_isSome, List.map_reverse, List.mem_reverse]

end Questionnaire.Dictionary
