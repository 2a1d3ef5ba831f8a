import Questionnaire.Parameter.Json

/-!
The parameter store: parameters with distinct names, in the order in which the names came up.

Writing a parameter whose name is there already replaces the entry where it stands.
-/

namespace Questionnaire

/-- Puts a parameter in the place of the one of its name, or at the end. -/
def Parameter.write (p : Parameter) : List Parameter → List Parameter
  | [] => [p]
  | q :: rest => if q.name = p.name then p :: rest else q :: Parameter.write p rest

theorem Parameter.mem_names_write {p : Parameter} {name : String} {ps : List Parameter} :
    name ∈ (Parameter.write p ps).map (·.name) ↔ name = p.name ∨ name ∈ ps.map (·.name) := by
  induction ps with
  | nil => simp [write]
  | cons q rest ih =>
    by_cases h : q.name = p.name
    · simp [write, h]
    · simp only [write, h, ite_false, List.map_cons, List.mem_cons, ih]
      constructor
      · rintro (h | h | h) <;> simp [h]
      · rintro (h | h | h) <;> simp [h]

theorem Parameter.nodup_write {p : Parameter} {ps : List Parameter}
    (h : (ps.map (·.name)).Nodup) : ((Parameter.write p ps).map (·.name)).Nodup := by
  induction ps with
  | nil => simp [write]
  | cons q rest ih =>
    rw [List.map_cons, List.nodup_cons] at h
    by_cases hq : q.name = p.name
    · rw [hq] at h
      simpa [write, hq] using h
    · simp only [write, hq, ite_false, List.map_cons, List.nodup_cons]
      exact ⟨fun m => (mem_names_write.1 m).elim hq h.1, ih h.2⟩

theorem Parameter.find?_write (p : Parameter) (name : String) (ps : List Parameter) :
    (Parameter.write p ps).find? (·.name == name) =
      if p.name = name then some p else ps.find? (·.name == name) := by
  induction ps with
  | nil => by_cases h : p.name = name <;> simp [write, h]
  | cons q rest ih =>
    by_cases hq : q.name = p.name <;> by_cases h : p.name = name <;>
      by_cases hn : q.name = name <;> simp_all [write]

structure ParameterStore where
  toList : List Parameter
  distinct : (toList.map (·.name)).Nodup
deriving DecidableEq

namespace ParameterStore

def empty : ParameterStore := ⟨[], by simp⟩

instance : Inhabited ParameterStore := ⟨empty⟩

def insert (store : ParameterStore) (p : Parameter) : ParameterStore :=
  ⟨p.write store.toList, Parameter.nodup_write store.distinct⟩

def insertAll (store : ParameterStore) (ps : List Parameter) : ParameterStore :=
  ps.foldl insert store

/-- The store of these parameters; of two with one name the later one counts, at the place of the
first. -/
def ofList (ps : List Parameter) : ParameterStore := empty.insertAll ps

def get? (store : ParameterStore) (name : String) : Option Parameter :=
  store.toList.find? (·.name == name)

def value (store : ParameterStore) (name : String) : Value :=
  ((store.get? name).map (·.value)).getD .unknown

def contains (store : ParameterStore) (name : String) : Bool := (store.get? name).isSome

def isKnown (store : ParameterStore) (name : String) : Bool := !(store.value name).isUnknown

def names (store : ParameterStore) : List String := store.toList.map (·.name)

def size (store : ParameterStore) : Nat := store.toList.length

def isEmpty (store : ParameterStore) : Bool := store.toList.isEmpty

def same (a b : ParameterStore) : Bool :=
  a.size == b.size && (a.toList.zip b.toList).all fun (p, q) => p.same q

def toJson (store : ParameterStore) : Json := .array (store.toList.map Parameter.toJson)

def ofJson (j : Json) : Json.Shaped ParameterStore :=
  (Json.readList Parameter.ofJson j).map ofList

@[simp] theorem toList_empty : empty.toList = [] := rfl

@[simp] theorem toList_insert (store : ParameterStore) (p : Parameter) :
    (store.insert p).toList = p.write store.toList := rfl

theorem get?_insert (store : ParameterStore) (p : Parameter) (name : String) :
    (store.insert p).get? name = if p.name = name then some p else store.get? name :=
  Parameter.find?_write p name store.toList

/-! ### Answers -/

/-- Why a JSON value is not a set of answers. -/
inductive AnswersError
  | mismatch (m : Shape.Mismatch)
  | neither (found : Json)
deriving Inhabited

def AnswersError.message : AnswersError → String
  | mismatch m => m.message
  | neither found => "expected an answers object or array, got " ++ found.toText

/-- Reads answers: an object of names and answers, a list of parameters, or nothing. -/
def ofAnswers : Json → Except AnswersError ParameterStore
  | .null => .ok empty
  | .object members => .ok (ofList (members.map fun (name, j) => Parameter.ofAnswer name j))
  | .array items => (ofJson (.array items)).mapError .mismatch
  | j => .error (.neither j)

end ParameterStore

end Questionnaire
