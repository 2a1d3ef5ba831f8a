import Mathlib.Data.List.Nodup
import Questionnaire.Parameter.Store

/-!
Looking names up in a parameter store.

`write_of_absent` is what makes a store grow at its end: only a parameter whose name is there already
replaces anything.
-/

namespace Questionnaire

theorem find?_keyed {α κ : Type} [BEq κ] [LawfulBEq κ] {key : α → κ} {xs : List α}
    (distinct : (xs.map key).Nodup) {k : κ} {x : α} : xs.find? (key · == k) = some x ↔ x ∈ xs ∧ key x = k := by
  constructor
  · intro found
    exact ⟨List.mem_of_find?_eq_some found, by simpa using List.find?_some found⟩
  · rintro ⟨member, rfl⟩
    cases found : xs.find? (key · == key x) with
    | none => simpa using List.find?_eq_none.mp found x member
    | some y =>
      have same : key y = key x := by simpa using List.find?_some found
      rw [List.inj_on_of_nodup_map distinct (List.mem_of_find?_eq_some found) member same]

theorem Parameter.write_of_absent {p : Parameter} {ps : List Parameter}
    (absent : p.name ∉ ps.map (·.name)) : Parameter.write p ps = ps ++ [p] := by
  induction ps with
  | nil => rfl
  | cons q rest ih =>
    simp only [List.map_cons, List.mem_cons, not_or] at absent
    rw [write, if_neg (Ne.symm absent.1), ih absent.2, List.cons_append]

theorem names_filterMap_sublist {f : Parameter → Option Parameter} {ps : List Parameter}
    (keeps : ∀ p q, f p = some q → q.name = p.name) :
    ((ps.filterMap f).map (·.name)).Sublist (ps.map (·.name)) := by
  induction ps with
  | nil => exact List.Sublist.refl _
  | cons p rest ih =>
    cases made : f p with
    | none =>
      rw [List.filterMap_cons_none made]
      exact ih.cons _
    | some q =>
      rw [List.filterMap_cons_some made, List.map_cons, List.map_cons, keeps p q made]
      exact ih.cons_cons _

namespace ParameterStore

variable {store : ParameterStore} {p : Parameter} {name : String}

theorem eq_of_toList {other : ParameterStore} (same : store.toList = other.toList) :
    store = other := by
  cases store
  cases other
  cases same
  rfl

theorem get?_eq_some : store.get? name = some p ↔ p ∈ store.toList ∧ p.name = name :=
  find?_keyed store.distinct

theorem get?_eq_none : store.get? name = none ↔ name ∉ store.names := by
  simp only [get?, names, List.find?_eq_none, List.mem_map, beq_iff_eq, not_exists, not_and]

theorem contains_iff : store.contains name = true ↔ name ∈ store.names := by
  rw [contains, Option.isSome_iff_ne_none, ne_eq, get?_eq_none, Classical.not_not]

theorem names_of_isKnown (known : store.isKnown name = true) : name ∈ store.names := by
  rw [← contains_iff, contains, Option.isSome_iff_ne_none]
  intro missing
  simp [isKnown, value, missing, Value.isUnknown] at known

/-! ### Writing -/

theorem names_insert : name ∈ (store.insert p).names ↔ name = p.name ∨ name ∈ store.names :=
  Parameter.mem_names_write

theorem mem_insert {q : Parameter} (member : q ∈ (store.insert p).toList) :
    q = p ∨ q ∈ store.toList := by
  have found := get?_eq_some.mpr ⟨member, rfl⟩
  rw [get?_insert] at found
  split at found
  · exact Or.inl (Option.some.inj found).symm
  · exact Or.inr (get?_eq_some.mp found).1

theorem toList_insert_of_absent (absent : p.name ∉ store.names) :
    (store.insert p).toList = store.toList ++ [p] :=
  Parameter.write_of_absent absent

theorem value_insert_self : (store.insert p).value p.name = p.value := by
  simp [value, get?_insert]

theorem value_insert_of_ne (different : name ≠ p.name) :
    (store.insert p).value name = store.value name := by
  simp [value, get?_insert, Ne.symm different]

theorem isKnown_insert_of_ne (different : name ≠ p.name) :
    (store.insert p).isKnown name = store.isKnown name := by
  rw [isKnown, isKnown, value_insert_of_ne different]

/-! ### Stores of lists -/

theorem toList_insertAll {ps : List Parameter}
    (distinct : ((store.toList ++ ps).map (·.name)).Nodup) :
    (store.insertAll ps).toList = store.toList ++ ps := by
  induction ps generalizing store with
  | nil => exact (List.append_nil _).symm
  | cons q rest ih =>
    have absent : q.name ∉ store.names := by
      rw [List.map_append, List.nodup_append] at distinct
      intro member
      exact distinct.2.2 _ member _ (List.mem_map_of_mem List.mem_cons_self) rfl
    have written := toList_insert_of_absent absent
    have later : (((store.insert q).toList ++ rest).map (·.name)).Nodup := by
      rw [written, List.append_assoc]
      exact distinct
    calc ((store.insert q).insertAll rest).toList
      _ = (store.insert q).toList ++ rest := ih later
      _ = store.toList ++ q :: rest := by rw [written, List.append_assoc, List.singleton_append]

theorem toList_ofList {ps : List Parameter} (distinct : (ps.map (·.name)).Nodup) :
    (ofList ps).toList = ps :=
  toList_insertAll distinct

theorem toList_ofList_filterMap {f : Parameter → Option Parameter}
    (keeps : ∀ p q, f p = some q → q.name = p.name) :
    (ofList (store.toList.filterMap f)).toList = store.toList.filterMap f :=
  toList_ofList (store.distinct.sublist (names_filterMap_sublist keeps))

/-- What a store of made parameters has under a name is made of what is there under that name. -/
theorem get?_of_filterMap {f : Parameter → Option Parameter} {other : ParameterStore}
    (keeps : ∀ p q, f p = some q → q.name = p.name)
    (listed : other.toList = store.toList.filterMap f) (name : String) :
    other.get? name = (store.get? name).bind f := by
  ext q
  rw [get?_eq_some, listed, List.mem_filterMap, Option.bind_eq_some_iff]
  simp only [get?_eq_some]
  constructor
  · rintro ⟨⟨p, member, made⟩, rfl⟩
    exact ⟨p, ⟨member, (keeps p q made).symm⟩, made⟩
  · rintro ⟨p, ⟨member, rfl⟩, made⟩
    exact ⟨⟨p, member, made⟩, keeps p q made⟩

theorem isEmpty_insert : (store.insert p).isEmpty = false := by
  cases h : store.toList with
  | nil => simp [isEmpty, Parameter.write, h]
  | cons q rest =>
    simp only [isEmpty, toList_insert, h, Parameter.write]
    split <;> rfl

theorem isEmpty_insertAll {ps : List Parameter} (filled : store.isEmpty = false) :
    (store.insertAll ps).isEmpty = false := by
  induction ps generalizing store with
  | nil => exact filled
  | cons q rest ih => exact ih isEmpty_insert

theorem isEmpty_ofList {ps : List Parameter} : (ofList ps).isEmpty = ps.isEmpty := by
  cases ps with
  | nil => rfl
  | cons q rest =>
    show ((empty.insert q).insertAll rest).isEmpty = false
    exact isEmpty_insertAll isEmpty_insert

end ParameterStore

end Questionnaire
