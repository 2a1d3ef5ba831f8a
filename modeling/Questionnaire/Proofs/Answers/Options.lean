import Questionnaire.Proofs.Answers.Normalization

/-!
Answers that pick an option.

A picked option is read as any other text. Unless the question is for a text, it is taken: all options
then read as values of the type of the answer. For a text it is the rendering of what was read that
has to be an option, so an option with another spelling than its rendering can be refused.
-/

namespace Questionnaire

theorem Parameter.ofText_isUnknown (name s : String) :
    (Parameter.ofText name s).value.isUnknown = false := by
  simp only [ofText, ofValue, Value.ofText_isUnknown]

/-- A text denotes just the options that have its spelling. -/
theorem Value.isOption_text {s option : String} :
    (Value.text s).isOption option = true ↔ option = s := by
  unfold isOption
  simp only [toText, Bool.or_eq_true, beq_iff_eq, same_text]
  constructor
  · rintro (equal | read)
    · exact equal
    · have kept := ofText_type_text (s := option) (by rw [read]; rfl)
      exact Value.text.inj (kept.symm.trans read)
  · exact Or.inl

namespace AskedParameter

variable {p : AskedParameter} {o : String} {answer : Parameter} {v : Value}

/-- An answer is accepted as the value that it has as an answer of the type asked for, if there are no
options or one of them denotes that value. -/
theorem accept_ok_iff : p.accept answer = .ok v ↔ answer.value.coerce? p.valueType = some v ∧
    (p.options = [] ∨ ∃ o ∈ p.options, v.isOption o = true) := by
  have fits (w : Value) : (p.options.isEmpty || p.options.any w.isOption) = true ↔
      p.options = [] ∨ ∃ o ∈ p.options, w.isOption o = true := by
    rw [Bool.or_eq_true, List.isEmpty_iff, List.any_eq_true]
  unfold accept
  cases answer.value.coerce? p.valueType with
  | none => simp
  | some w =>
    simp only [Option.some.injEq]
    constructor
    · intro accepted
      split at accepted
      · rename_i listed
        cases accepted
        exact ⟨rfl, (fits _).mp listed⟩
      · cases accepted
    · rintro ⟨rfl, listed⟩
      exact if_pos ((fits w).mpr listed)

theorem accept_option_text (isText : p.valueType = .text) (listed : o ∈ p.options) :
    p.accept (.ofText p.name o) =
      if (Value.ofText o).toText ∈ p.options then .ok (.text (Value.ofText o).toText)
      else .error (.invalidAnswer p.name (.noOption (Value.ofText o).toText p.options)) := by
  have filled : p.options.isEmpty = false := by
    simpa using List.ne_nil_of_mem listed
  have denoted : p.options.any (Value.text (Value.ofText o).toText).isOption = true ↔
      (Value.ofText o).toText ∈ p.options := by
    simp [Value.isOption_text]
  have coerced := Value.coerce?_text (Value.ofText_isUnknown o)
  simp only [accept, Parameter.ofText, Parameter.ofValue, isText, coerced, filled, Bool.false_or]
  by_cases own : (Value.ofText o).toText ∈ p.options
  · rw [if_pos (denoted.mpr own), if_pos own]
  · rw [if_neg (mt denoted.mp own), if_neg own, Value.toText]

theorem accept_option_typed (typed : p.OptionsTyped) (other : p.valueType ≠ .text)
    (listed : o ∈ p.options) : p.accept (.ofText p.name o) = .ok (Value.ofText o) := by
  have reads : (Value.ofText o).type = p.valueType :=
    (typed.resolve_left other) o listed
  have coerced : (Value.ofText o).coerce? p.valueType = some (Value.ofText o) := by
    rw [← reads]
    exact Value.coerce?_self _
  have denoted : p.options.any (Value.ofText o).isOption = true := by
    refine List.any_eq_true.mpr ⟨o, listed, ?_⟩
    simp [Value.isOption, Value.same_refl]
  simp [accept, Parameter.ofText, Parameter.ofValue, coerced, denoted]

end AskedParameter

namespace Model

variable {m : Model} {step : Step} {p : AskedParameter} {o : String}

theorem WellFormed.acceptAnswer_option (wellFormed : m.WellFormed) (present : step ∈ m.steps)
    (asked : p ∈ step.asked) (listed : o ∈ p.options) (strict : Bool) (known : ParameterStore) :
    m.acceptAnswer strict known (.ofText p.name o) =
      if p.valueType = .text then
        if (Value.ofText o).toText ∈ p.options then
          .ok (known.insert (.ofValue p.name (.text (Value.ofText o).toText)))
        else .error (.invalidAnswer p.name (.noOption (Value.ofText o).toText p.options))
      else .ok (known.insert (.ofText p.name o)) := by
  rw [wellFormed.acceptAnswer_asked present asked strict known (.ofText p.name o) rfl
    (Parameter.ofText_isUnknown p.name o)]
  by_cases isText : p.valueType = .text
  · rw [AskedParameter.accept_option_text isText listed, if_pos isText]
    split <;> rfl
  · have typed := wellFormed.options_typed present asked
    rw [AskedParameter.accept_option_typed typed isText listed, if_neg isText]
    rfl

/-- A picked option is refused just if the question is for a text and the rendering of what the option
reads as is no option. Otherwise it is taken. -/
theorem option_accepted_iff {text : String} (compiled : Model.ofText text = .ok m)
    (present : step ∈ m.steps) (asked : p ∈ step.asked) (listed : o ∈ p.options) (strict : Bool)
    (known : ParameterStore) :
    ((∃ v, m.acceptAnswer strict known (.ofText p.name o) =
          .ok (known.insert (.ofValue p.name v)) ∧ v.type = p.valueType) ↔
        (p.valueType = .text → (Value.ofText o).toText ∈ p.options)) ∧
      ((∃ fault, m.acceptAnswer strict known (.ofText p.name o) =
          .error (.invalidAnswer p.name fault)) ↔
        p.valueType = .text ∧ (Value.ofText o).toText ∉ p.options) := by
  have wellFormed := wellFormed_of_text compiled
  rw [wellFormed.acceptAnswer_option present asked listed strict known]
  by_cases isText : p.valueType = .text
  · by_cases own : (Value.ofText o).toText ∈ p.options
    · simp only [isText, own, if_true, forall_const, iff_true, not_true_eq_false, and_false,
        reduceCtorEq, exists_false, and_true]
      exact ⟨_, rfl, rfl⟩
    · simp [isText, own]
  · have reads : (Value.ofText o).type = p.valueType :=
      ((wellFormed.options_typed present asked).resolve_left isText) o listed
    simp only [isText, if_false, false_implies, iff_true, false_and, reduceCtorEq, exists_false,
      and_true]
    exact ⟨_, rfl, reads⟩

/-! ### A truth value among other options -/

/-- A script with one question, whose options are a truth value and a text. -/
def surveyScript : String :=
  "steps:\n  - id: vraag\n    ask:\n      - \x7b name: keuze, options: [ja, misschien] \x7d\n"

/-- As the options have no type in common, the answer is a text. -/
def surveyChoice : AskedParameter := ⟨"keuze", .list, .text, ["ja", "misschien"], ""⟩

def surveyStep : Step :=
  ⟨"vraag", "", .question [surveyChoice] .all, .finish none, ⟨⟨2, 5, 11⟩, ⟨2, 14, 20⟩⟩⟩

def surveyModel : Model := ⟨[], .empty, [surveyStep], [⟨"keuze", .question 0, .text⟩]⟩

theorem ofText_surveyScript : Model.ofText surveyScript = .ok surveyModel := by
  have written : surveyScript = String.ofList _ := rfl
  rw [Model.ofText_eq written]
  exact ok_of_toOption (by decide +kernel)

theorem option_accepted_survey :
    Model.ofText surveyScript = .ok surveyModel ∧ surveyStep ∈ surveyModel.steps ∧
      surveyChoice ∈ surveyStep.asked ∧ "misschien" ∈ surveyChoice.options ∧
      ∃ v, surveyModel.acceptAnswer true .empty (.ofText surveyChoice.name "misschien") =
        .ok (.insert .empty (.ofValue surveyChoice.name v)) ∧ v.type = surveyChoice.valueType := by
  have here : surveyStep ∈ surveyModel.steps := List.mem_singleton.mpr rfl
  have asked : surveyChoice ∈ surveyStep.asked := List.mem_singleton.mpr rfl
  have listed : "misschien" ∈ surveyChoice.options := by decide
  obtain ⟨accepted, _⟩ := option_accepted_iff ofText_surveyScript here asked listed true .empty
  have rendering : (Value.ofText "misschien").toText = "misschien" := by decide
  refine ⟨ofText_surveyScript, here, asked, listed, accepted.mpr fun _ => ?_⟩
  rw [rendering]
  exact listed

/-- The truth value is taken as "true", which is no option. -/
theorem truth_option_refused :
    Model.ofText surveyScript = .ok surveyModel ∧ surveyStep ∈ surveyModel.steps ∧
      surveyChoice ∈ surveyStep.asked ∧ "ja" ∈ surveyChoice.options ∧
      ∀ strict known, surveyModel.acceptAnswer strict known (.ofText surveyChoice.name "ja") =
        .error (.invalidAnswer surveyChoice.name (.noOption "true" surveyChoice.options)) := by
  have here : surveyStep ∈ surveyModel.steps := List.mem_singleton.mpr rfl
  have asked : surveyChoice ∈ surveyStep.asked := List.mem_singleton.mpr rfl
  have listed : "ja" ∈ surveyChoice.options := by decide
  refine ⟨ofText_surveyScript, here, asked, listed, ?_⟩
  intro strict known
  have rendering : (Value.ofText "ja").toText = "true" := by decide
  have taken := (wellFormed_of_text ofText_surveyScript).acceptAnswer_option here asked listed strict
    known
  rw [rendering] at taken
  exact taken

end Model

end Questionnaire
