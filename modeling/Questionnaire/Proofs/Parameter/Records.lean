import Questionnaire.Proofs.Json.Records
import Questionnaire.Proofs.Parameter.Lookup
import Questionnaire.Proofs.Value.Notation
import Questionnaire.Parameter.Store

/-!
Parameters that are written as records and read again.

A record holds the text of most values and the declared type, which tells how the text is to be read. So
a parameter comes back if its type is the type of its value, or if its value is one that the record shows
as what it is: a list, or none at all. `Parameter.ofJson_toJson` and `ParameterStore.ofJson_toJson` say
what comes back: the same names, types and values in the same order, numbers in their normal form.
-/

namespace Questionnaire

namespace Parameter

variable {p : Parameter}

/-- The same parameter, a number in its normal form. -/
def normalize (p : Parameter) : Parameter := { p with value := p.value.normalize }

/-- A parameter declares the type of its value, unless it has no value or a list for one. -/
def Honest (p : Parameter) : Prop :=
  p.type = p.value.type ∨ p.value.type = .list ∨ p.value.type = .unknown

/-- A parameter as it is read from a text or a document, with a declared type or without. -/
def IsRead (p : Parameter) : Prop := ∃ declared answer, p = .ofDeclared p.name declared answer

/-- Two parameters that cannot be told apart, numbers compared as numbers. -/
structure Alike (p q : Parameter) : Prop where
  name : q.name = p.name
  type : q.type = p.type
  value : p.value.same q.value = true
  text : q.text = p.text
  options : q.options = p.options

theorem alike_normalize (p : Parameter) : p.Alike p.normalize where
  name := rfl
  type := rfl
  value := p.value.same_normalize
  text := p.value.normalize_toText
  options := by simp only [options, normalize, Value.normalize_items]

/-! ### Types of what is read -/

theorem honest_ofValue (name : String) (v : Value) : (ofValue name v).Honest := Or.inl rfl

theorem honest_question (name : String) (type : AnswerType) (labels : List String) :
    (question name type labels).Honest := by
  cases labels with
  | nil => exact Or.inr (Or.inr rfl)
  | cons label labels => exact Or.inr (Or.inl rfl)

theorem honest_ofDeclared (name : String) (declared : Option AnswerType) (answer : Json) :
    (ofDeclared name declared answer).Honest := by
  unfold ofDeclared
  split
  · exact honest_ofValue _ _
  · exact honest_ofValue _ _
  · exact Or.inr (Or.inr rfl)
  · exact honest_question _ _ _
  · exact honest_ofValue _ _

theorem IsRead.honest (read : p.IsRead) : p.Honest := by
  obtain ⟨declared, answer, same⟩ := read
  rw [same]
  exact honest_ofDeclared _ _ _

/-! ### Records -/

theorem ofDeclared_string {name s : String} {type : AnswerType} (other : type ≠ .text) :
    ofDeclared name (some type) (.string s) =
      .ofValue name (((Value.ofText s).coerce? type).getD (Value.ofText s)) := by
  cases type with
  | text => exact absurd rfl other
  | _ => rfl

/-- The declared type tells how the value of a record is to be read. -/
theorem ofDeclared_toJson (honest : p.Honest) (writable : p.value.Writable) :
    ofDeclared p.name (some p.type) p.value.toJson = p.normalize := by
  have shown (more : p.value.type ≠ .text ∧ p.value.type ≠ .list ∧ p.value.type ≠ .unknown) :
      ofDeclared p.name (some p.type) (.string p.value.toText) = p.normalize := by
    have same := honest.resolve_right (not_or.mpr more.2)
    have own : p.value.normalize.coerce? p.type = some p.value.normalize := by
      rw [same, ← Value.normalize_type]
      exact Value.coerce?_self _
    rw [ofDeclared_string (same ▸ more.1), Value.ofText_toText writable more, own]
    simp [normalize, ofValue, same]
  obtain ⟨name, type, value⟩ := p
  cases value with
  | boolean b =>
    cases honest.resolve_right (by simp [Value.type])
    rfl
  | text s =>
    cases honest.resolve_right (by simp [Value.type])
    rfl
  | list first others =>
    have items : ((first :: others).map Json.string).map Value.itemText = first :: others := by
      simp [Value.itemText, Function.comp_def]
    have back : Value.ofJson (Json.ofStrings (first :: others)) = .list first others :=
      congrArg Value.ofItems items
    cases type
    all_goals exact congrArg (Parameter.mk name _) back
  | unknown => cases type <;> rfl
  | number d => exact shown (by simp [Value.type])
  | moment m => exact shown (by simp [Value.type])
  | timeSpan t => exact shown (by simp [Value.type])
  | period p => exact shown (by simp [Value.type])

theorem ofJson_object (name : String) (type : AnswerType) (value : Json) :
    ofJson (.object [("name", .string name), ("type", .string type.name), ("value", value)]) =
      .ok (ofDeclared name (some type) value) := by
  have declared : readDeclaredType (.string type.name) = .ok (some type) := by
    simp only [readDeclaredType, Json.readAnswerType_name]
    rfl
  refine (Json.readRecord_object (by simp) ?_).trans ?_
  · simp [Json.readString?, declared, Except.map]
  · simp [Json.Fields.required, Json.Fields.optional, Json.Fields.get?, Json.readString?, declared,
      Bind.bind, Except.bind, pure, Except.pure]

theorem ofJson_toJson (honest : p.Honest) (writable : p.value.Writable) :
    ofJson p.toJson = .ok p.normalize := by
  rw [toJson, ofJson_object, ofDeclared_toJson honest writable]

/-! ### Where parameters are read -/

theorem ofDeclared_name (name : String) (declared : Option AnswerType) (answer : Json) :
    (ofDeclared name declared answer).name = name := by
  unfold ofDeclared
  split <;> rfl

theorem isRead_ofDeclared (name : String) (declared : Option AnswerType) (answer : Json) :
    (ofDeclared name declared answer).IsRead :=
  ⟨declared, answer, by rw [ofDeclared_name]⟩

theorem isRead_ofJson {j : Json} (h : ofJson j = .ok p) : p.IsRead := by
  obtain ⟨fields, h⟩ := Json.readRecord_ok h
  obtain ⟨name, _, h⟩ := bind_ok.mp h
  obtain ⟨declared, _, h⟩ := bind_ok.mp h
  obtain ⟨answer, _, h⟩ := bind_ok.mp h
  cases pure_ok.mp h
  exact isRead_ofDeclared name declared answer

end Parameter

namespace ParameterStore

variable {store : ParameterStore} {p : Parameter} {ps : List Parameter}

def normalize (store : ParameterStore) : ParameterStore :=
  ⟨store.toList.map Parameter.normalize, by
    rw [List.map_map]
    exact store.distinct⟩

def IsRead (store : ParameterStore) : Prop := ∀ p ∈ store.toList, p.IsRead

theorem alike_normalize (store : ParameterStore) :
    List.Forall₂ Parameter.Alike store.toList store.normalize.toList := by
  rw [normalize, List.forall₂_map_right_iff, List.forall₂_same]
  exact fun p _ => p.alike_normalize

/-! ### Where answers are read -/

theorem mem_insertAll (member : p ∈ (store.insertAll ps).toList) : p ∈ ps ∨ p ∈ store.toList := by
  induction ps generalizing store with
  | nil => exact Or.inr member
  | cons q rest ih =>
    rcases ih member with later | earlier
    · exact Or.inl (List.mem_cons_of_mem _ later)
    · rcases mem_insert earlier with rfl | old
      · exact Or.inl List.mem_cons_self
      · exact Or.inr old

theorem isRead_ofList (read : ∀ p ∈ ps, p.IsRead) : (ofList ps).IsRead := by
  intro p member
  rcases mem_insertAll member with listed | empty
  · exact read p listed
  · cases empty

theorem isRead_ofAnswers {j : Json} (h : ofAnswers j = .ok store) : store.IsRead := by
  unfold ofAnswers at h
  split at h
  · cases h
    intro p member
    cases member
  · cases h
    refine isRead_ofList fun p member => ?_
    obtain ⟨⟨name, answer⟩, _, rfl⟩ := List.mem_map.mp member
    exact ⟨none, answer, rfl⟩
  · obtain ⟨ps, read, rfl⟩ := map_ok.mp (mapError_ok.mp h)
    refine isRead_ofList fun p member => ?_
    obtain ⟨item, _, read⟩ := mapM_ok_mem read member
    exact Parameter.isRead_ofJson read
  · cases h

/-! ### Lists of records -/

theorem ofJson_toJson (honest : ∀ p ∈ store.toList, p.Honest)
    (writable : ∀ p ∈ store.toList, p.value.Writable) : ofJson store.toJson = .ok store.normalize := by
  have read : Json.readList Parameter.ofJson store.toJson = .ok store.normalize.toList :=
    Json.readList_map fun p member => Parameter.ofJson_toJson (honest p member) (writable p member)
  rw [ofJson, read]
  exact congrArg Except.ok (eq_of_toList (toList_ofList store.normalize.distinct))

end ParameterStore

end Questionnaire
