import Questionnaire.Proofs.Dictionary
import Questionnaire.Screen.Text

/-!
The input element of a result that asks for something.
-/

namespace Questionnaire.Prompt

variable {labels : Labels} {r : Result} {first : Parameter} {all others : List Parameter} {p : Prompt}
  {known : ParameterStore} {key : String}

theorem ofResult_of_cons (listed : r.questions.parameters.toList = first :: others) :
    ofResult labels r = {
      name := some first.name
      type := first.type
      kind := kindOf first.type
      label := ((labels.title r.questions.label) <|> (labels.title first.name)).getD
        (Text.caption r.questions.label)
      options := optionsOf labels first (first :: others) (kindOf first.type)
      hint := labels.hint first.name } := by
  have type : r.askedType = first.type := by rw [Result.askedType, listed]
  unfold ofResult
  rw [listed, type]

theorem mem_radioKeys : key ∈ (optionsOf labels first all .radio).map (·.1) ↔ key ∈ all.map (·.name) := by
  rw [optionsOf, Dictionary.mem_keys_ofList, List.map_map]
  rfl

theorem mem_selectKeys : key ∈ (optionsOf labels first all .select).map (·.1) ↔ key ∈ first.options := by
  rw [optionsOf, Dictionary.mem_keys_ofList, List.map_map]
  exact List.mem_map.trans (by simp)

/-! ### Marks -/

/-- The keys of the options that a screen marks. -/
def marked (p : Prompt) (known : ParameterStore) : List String :=
  (p.options.map (·.1)).filter (p.isMarked known)

/-- The options of a screen are its rows, and those that it marks have a cross. -/
theorem body_of_options (listed : p.kind = .radio ∨ p.kind = .select) :
    p.body known = String.join (p.options.map fun (key, text) =>
      "  [" ++ (if key ∈ p.marked known then "x" else " ") ++ "] " ++ text ++ " (" ++ key ++ ")\n") := by
  have rows : p.body known = String.join (p.options.map fun (key, text) =>
      "  [" ++ (if p.isMarked known key then "x" else " ") ++ "] " ++ text ++ " (" ++ key ++ ")\n") := by
    unfold body
    rcases listed with kind | kind <;> rw [kind]
  rw [rows]
  refine congrArg String.join (List.map_congr_left fun (key, text) option => ?_)
  have offered : key ∈ p.options.map (·.1) := List.mem_map_of_mem option
  simp only [marked, List.mem_filter, offered, true_and]

end Questionnaire.Prompt
