import Questionnaire.Proofs.Json.Records
import Questionnaire.Proofs.Parameter.Lookup

/-!
What a parameter store keeps of the parameters that were written to it.

Of all that was written under a name the store has the last, and it has the names in the order in which
they were first written: `Records`. To write one parameter keeps this (`Records.insert`), so every way to
build a store gives it.
-/

namespace Questionnaire

theorem eraseDups_concat (names : List String) (name : String) :
    (names ++ [name]).eraseDups =
      if name ∈ names then names.eraseDups else names.eraseDups ++ [name] := by
  rw [List.eraseDups_append]
  split
  · rename_i present
    have none : [name].removeAll names = [] := by simp [List.removeAll, present]
    rw [none, List.eraseDups_nil, List.append_nil]
  · rename_i absent
    have whole : [name].removeAll names = [name] := by simp [List.removeAll, absent]
    rw [whole]
    rfl

/-- To write a parameter leaves every entry of another name where it is, and moves none there. -/
theorem Parameter.getElem?_write {p q : Parameter} (other : q.name ≠ p.name) (ps : List Parameter)
    (i : Nat) : (Parameter.write p ps)[i]? = some q ↔ ps[i]? = some q := by
  have apart : p ≠ q := by
    rintro rfl
    exact other rfl
  induction ps generalizing i with
  | nil => cases i <;> simp [write, apart]
  | cons r rest ih =>
    rw [write]
    split
    · rename_i same
      have others : r ≠ q := by
        rintro rfl
        exact other same
      cases i with
      | zero => simp [apart, others]
      | succ i => rfl
    · cases i with
      | zero => rfl
      | succ i => exact ih i

theorem Parameter.names_write (p : Parameter) (ps : List Parameter) :
    (Parameter.write p ps).map (·.name) =
      if p.name ∈ ps.map (·.name) then ps.map (·.name) else ps.map (·.name) ++ [p.name] := by
  induction ps with
  | nil => rfl
  | cons q rest ih =>
    by_cases same : q.name = p.name
    · simp [write, same]
    · rw [write, if_neg same, List.map_cons, ih]
      by_cases later : p.name ∈ rest.map (·.name)
      · simp [later]
      · simp [later, Ne.symm same]

namespace ParameterStore

variable {store : ParameterStore} {p q : Parameter} {writes ps : List Parameter} {name : String}

/-! ### Writing -/

theorem getElem?_insertAll (other : q.name ∉ ps.map (·.name)) (i : Nat) :
    (store.insertAll ps).toList[i]? = some q ↔ store.toList[i]? = some q := by
  induction ps generalizing store with
  | nil => exact Iff.rfl
  | cons p rest ih =>
    rw [List.map_cons, List.mem_cons, not_or] at other
    exact (ih other.2).trans (Parameter.getElem?_write other.1 store.toList i)

/-- The store has the last of what was written under each name, in the order of the first writes. -/
structure Records (writes : List Parameter) (store : ParameterStore) : Prop where
  names : store.names = (writes.map (·.name)).eraseDups
  last : ∀ name, store.get? name = (writes.filter (·.name == name)).getLast?

theorem records_empty : Records [] empty := ⟨rfl, fun _ => rfl⟩

theorem Records.insert (records : Records writes store) (p : Parameter) :
    Records (writes ++ [p]) (store.insert p) where
  names := by
    have listed : p.name ∈ store.names ↔ p.name ∈ writes.map (·.name) := by
      rw [records.names, List.mem_eraseDups]
    calc (store.insert p).names
      _ = if p.name ∈ store.names then store.names else store.names ++ [p.name] :=
        Parameter.names_write p store.toList
      _ = ((writes ++ [p]).map (·.name)).eraseDups := by
        rw [List.map_append, List.map_singleton, eraseDups_concat, ← records.names, if_congr listed rfl rfl]
  last name := by
    rw [get?_insert, List.filter_append, List.getLast?_append, records.last]
    by_cases same : p.name = name <;> simp [same]

theorem Records.insertAll (records : Records writes store) (ps : List Parameter) :
    Records (writes ++ ps) (store.insertAll ps) := by
  induction ps generalizing writes store with
  | nil =>
    rw [List.append_nil]
    exact records
  | cons p rest ih =>
    have later := ih (records.insert p)
    rw [List.append_assoc] at later
    exact later

theorem records_ofList (ps : List Parameter) : Records ps (ofList ps) := records_empty.insertAll ps

/-! ### Reading -/

theorem ofJson_array {items : List Json}
    (each : List.Forall₂ (fun item p => Parameter.ofJson item = .ok p) items ps) :
    ofJson (.array items) = .ok (ofList ps) := by
  have read : Json.readList Parameter.ofJson (.array items) = .ok ps := mapM_ok.mpr each
  rw [ofJson, read]
  rfl

/-- The ways to build a store, with all parameters that are written on the way: from nothing, from a list,
from an array of records, from an object of answers, and by writing one more to a store. -/
inductive Built : List Parameter → ParameterStore → Prop
  | empty : Built [] .empty
  | collected (ps : List Parameter) : Built ps (.ofList ps)
  | read {items : List Json} {ps : List Parameter} {store : ParameterStore}
      (each : List.Forall₂ (fun item p => Parameter.ofJson item = .ok p) items ps)
      (read : ofJson (.array items) = .ok store ∨ ofAnswers (.array items) = .ok store) :
      Built ps store
  | answered {members : List (String × Json)} {store : ParameterStore}
      (read : ofAnswers (.object members) = .ok store) :
      Built (members.map fun member => .ofAnswer member.1 member.2) store
  | written {writes : List Parameter} {store : ParameterStore} (built : Built writes store)
      (p : Parameter) : Built (writes ++ [p]) (store.insert p)

theorem Built.records (built : Built writes store) : Records writes store := by
  induction built with
  | empty => exact records_empty
  | collected ps => exact records_ofList ps
  | @read items ps store each read =>
    have made := ofJson_array each
    have same : store = ofList ps := by
      rcases read with read | read
      · exact Except.ok.inj (read.symm.trans made)
      · rw [ofAnswers, made] at read
        exact (Except.ok.inj read).symm
    rw [same]
    exact records_ofList ps
  | answered read =>
    cases read
    exact records_ofList _
  | written _ p ih => exact ih.insert p

/-- However a store was built, its names are distinct, they stand in the order in which they were first
written, and under each of them is the last parameter that was written. To write more parameters, one
after the other, leaves the entries of all other names at their places. -/
theorem built_ordered (built : Built writes store) :
    store.names.Nodup ∧ store.names = (writes.map (·.name)).eraseDups ∧
      (∀ name, store.get? name = (writes.filter (·.name == name)).getLast?) ∧
      ∀ (more : List Parameter) (q : Parameter), q.name ∉ more.map (·.name) →
        ∀ i : Nat, (store.insertAll more).toList[i]? = some q ↔ store.toList[i]? = some q := by
  have records := built.records
  exact ⟨store.distinct, records.names, records.last, fun _ _ other => getElem?_insertAll other⟩

/-! ### Two names, each written twice -/

def incomeRecords : List Json :=
  [.object [("name", .string "inkomen"), ("value", .number (.whole 1000))],
    .object [("name", .string "partner"), ("type", .string "Boolean"), ("value", .string "ja")],
    .object [("name", .string "inkomen"), ("value", .number (.whole 2000))]]

def incomeWrites : List Parameter :=
  [.ofText "inkomen" "1000", .ofText "partner" "ja", .ofText "inkomen" "2000"]

/-- The second income replaces the first one and stays in front of the partner. -/
theorem built_ordered_income :
    ∃ store, ofJson (.array incomeRecords) = .ok store ∧
      Built (incomeWrites ++ [.ofText "partner" "nee"]) (store.insert (.ofText "partner" "nee")) ∧
      (store.insert (.ofText "partner" "nee")).names = ["inkomen", "partner"] ∧
      (store.insert (.ofText "partner" "nee")).get? "inkomen" = some (.ofText "inkomen" "2000") ∧
      (store.insert (.ofText "partner" "nee")).get? "partner" = some (.ofText "partner" "nee") ∧
      (store.insert (.ofText "partner" "nee")).get? "kinderen" = none := by
  have each : List.Forall₂ (fun item p => Parameter.ofJson item = .ok p) incomeRecords incomeWrites :=
    .cons (ok_of_toOption (by decide +kernel)) (.cons (ok_of_toOption (by decide +kernel))
      (.cons (ok_of_toOption (by decide +kernel)) .nil))
  have read := ofJson_array each
  have built := (Built.read each (.inl read)).written (.ofText "partner" "nee")
  obtain ⟨-, names, last, -⟩ := built_ordered built
  refine ⟨_, read, built, ?_, ?_, ?_, ?_⟩
  · rw [names]
    decide
  · rw [last]
    decide +kernel
  · rw [last]
    decide +kernel
  · rw [last]
    decide

end ParameterStore

end Questionnaire
