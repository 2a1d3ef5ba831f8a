import Questionnaire.Interview.Session
import Questionnaire.Proofs.Answers.Options
import Questionnaire.Proofs.Decimal.Normal
import Questionnaire.Proofs.Run.Asking
import Questionnaire.Proofs.Screen.Elements

/-!
The option that was picked, on a screen that shows the answer.

An answer may be given in any spelling that reads as one of the options, and it is kept as what it reads
as. The screen marks the option that is spelled like the answer is written. So what was picked is marked
just if options are spelled like what they read as is written: `picked_marked_iff`.
-/

namespace Questionnaire

theorem Value.isOption_iff {v : Value} {o : String} :
    v.isOption o = true ↔ o = v.toText ∨ (ofText o).same v = true := by
  rw [isOption, Bool.or_eq_true, beq_iff_eq]

theorem Value.toText_of_isOption {v : Value} {o : String} (denoted : v.isOption o = true) :
    o = v.toText ∨ (ofText o).toText = v.toText :=
  (isOption_iff.mp denoted).imp_right toText_of_same

namespace AskedParameter

variable {p : AskedParameter} {v : Value} {r : Result} {known : ParameterStore} {labels : Labels}
  {answer : Parameter} {o : String}

/-- A result that asks a question first, and what is known when the question is answered with a value. -/
structure Shows (p : AskedParameter) (v : Value) (r : Result) (known : ParameterStore) : Prop where
  first : r.questions.parameters.toList.head? = some p.question
  filled : known.get? p.name = some (.ofValue p.name v)

theorem exists_shows (p : AskedParameter) (v : Value) : ∃ r known, p.Shows v r known := by
  refine ⟨⟨⟨"", .insert .empty p.question⟩, .empty, [], none⟩,
    .insert .empty (.ofValue p.name v), rfl, ?_⟩
  exact (ParameterStore.get?_insert _ _ _).trans (if_pos rfl)

theorem Shows.mem_marked (shows : p.Shows v r known) (labels : Labels)
    (isList : p.questionType = .list) :
    (Prompt.ofResult labels r).kind = .select ∧
      ∀ o, o ∈ (Prompt.ofResult labels r).marked known ↔ o ∈ p.options ∧ o = v.toText := by
  obtain ⟨others, listed⟩ : ∃ others, r.questions.parameters.toList = p.question :: others :=
    List.head?_eq_some_iff.mp shows.first
  have kind : Prompt.kindOf p.question.type = .select := congrArg Prompt.kindOf isList
  have shown : Prompt.current? known p.question.name = some v.toText :=
    congrArg (Option.map Parameter.text) shows.filled
  rw [Prompt.ofResult_of_cons listed, kind]
  refine ⟨rfl, fun o => ?_⟩
  rw [Prompt.marked, List.mem_filter, Prompt.mem_selectKeys, question_options fun _ => isList,
    Prompt.isMarked, Option.bind_some, shown, beq_iff_eq, Option.some.injEq, eq_comm (a := v.toText)]

theorem text_of_accepted (isText : p.valueType = .text) (accepted : p.accept answer = .ok v) :
    ∃ s, v = .text s := by
  have type : v.type = .text :=
    Value.type_of_coerce? (by decide) (isText ▸ Model.accept_coerced accepted)
  cases v with
  | text s => exact ⟨s, rfl⟩
  | _ => cases type

/-- What an accepted answer and the marks on a screen for it have in common, whatever the answer is. -/
def EachMarks (p : AskedParameter) (labels : Labels) (fits : Value → List String → Prop) : Prop :=
  ∀ answer v r known, p.accept answer = .ok v → p.Shows v r known →
    fits v ((Prompt.ofResult labels r).marked known)

/-- A picked option itself is accepted, unless the question is for a text. -/
theorem EachMarks.of_option {fits : Value → List String → Prop} (each : p.EachMarks labels fits)
    (typed : p.OptionsTyped) (other : p.valueType ≠ .text) (isList : p.questionType = .list)
    (option : o ∈ p.options) : ∃ marked : List String, fits (Value.ofText o) marked ∧
      ∀ key, key ∈ marked ↔ key ∈ p.options ∧ key = (Value.ofText o).toText := by
  obtain ⟨r, known, shows⟩ := p.exists_shows (Value.ofText o)
  have accepted := accept_option_typed typed other option
  exact ⟨_, each _ _ r known accepted shows, (shows.mem_marked labels isList).2⟩

theorem each_marks_denoted_iff (typed : p.OptionsTyped) (isList : p.questionType = .list) :
    p.EachMarks labels (fun v marked => ∀ o ∈ p.options,
        (o ∈ marked ↔ o = v.toText ∨ (Value.ofText o).same v = true)) ↔
      p.valueType = .text ∨ ∀ o ∈ p.options, (Value.ofText o).toText = o := by
  constructor
  · intro each
    by_cases isText : p.valueType = .text
    · exact .inl isText
    · refine .inr fun o option => ?_
      obtain ⟨marked, denoted, marks⟩ := each.of_option typed isText isList option
      have read : o ∈ marked := (denoted o option).mpr (.inr (Value.same_refl _))
      exact ((marks o).mp read).2.symm
  · intro spelled answer v r known accepted shows o option
    rw [(shows.mem_marked labels isList).2, and_iff_right option]
    refine ⟨.inl, fun denoted => ?_⟩
    rcases spelled with isText | spelled
    · obtain ⟨s, rfl⟩ := text_of_accepted isText accepted
      exact Value.isOption_text.mp (Value.isOption_iff.mpr denoted)
    · rcases denoted with same | reads
      · exact same
      · exact (spelled o option).symm.trans (Value.toText_of_same reads)

theorem each_marks_some_iff (options : p.options ≠ []) (typed : p.OptionsTyped)
    (isList : p.questionType = .list) :
    p.EachMarks labels (fun _ marked => ∃ o ∈ p.options, o ∈ marked) ↔
      p.valueType = .text ∨ ∀ o ∈ p.options, (Value.ofText o).toText ∈ p.options := by
  constructor
  · intro each
    by_cases isText : p.valueType = .text
    · exact .inl isText
    · refine .inr fun o option => ?_
      obtain ⟨marked, ⟨key, offered, crossed⟩, marks⟩ := each.of_option typed isText isList option
      exact ((marks key).mp crossed).2 ▸ offered
  · intro spelled answer v r known accepted shows
    obtain ⟨o, option, denoted⟩ := (accept_ok_iff.mp accepted).2.resolve_left options
    have offered : v.toText ∈ p.options := by
      rcases spelled with isText | spelled
      · obtain ⟨s, rfl⟩ := text_of_accepted isText accepted
        exact Value.isOption_text.mp denoted ▸ option
      · rcases Value.toText_of_isOption denoted with same | reads
        · exact same ▸ option
        · exact reads ▸ spelled o option
    exact ⟨v.toText, offered, (shows.mem_marked labels isList).2 _ |>.mpr ⟨offered, rfl⟩⟩

end AskedParameter

namespace Model

variable {m : Model} {s : Step} {p : AskedParameter}

/-- The screen for a question with options marks the option that is spelled like the answer is written.
These are the options that denote the answer, whatever the answer is, just if the question is for a text
or each option is written as what it reads as. Some option is marked for every answer just if the question
is for a text or what the options read as is written like options. -/
theorem picked_marked_iff {text : String} (compiled : Model.ofText text = .ok m) (step : s ∈ m.steps)
    (asked : p ∈ s.asked) (options : p.options ≠ []) (labels : Labels) :
    (∀ answer v r known, p.accept answer = .ok v → p.Shows v r known →
      (Prompt.ofResult labels r).kind = .select ∧
      (Prompt.ofResult labels r).body known =
        String.join ((Prompt.ofResult labels r).options.map fun (key, text) =>
          "  [" ++ (if key ∈ (Prompt.ofResult labels r).marked known then "x" else " ") ++ "] " ++ text ++
            " (" ++ key ++ ")\n") ∧
      ∀ o, o ∈ (Prompt.ofResult labels r).marked known ↔ o ∈ p.options ∧ o = v.toText) ∧
    (p.EachMarks labels (fun v marked => ∀ o ∈ p.options,
        (o ∈ marked ↔ o = v.toText ∨ (Value.ofText o).same v = true)) ↔
      p.valueType = .text ∨ ∀ o ∈ p.options, (Value.ofText o).toText = o) ∧
    (p.EachMarks labels (fun _ marked => ∃ o ∈ p.options, o ∈ marked) ↔
      p.valueType = .text ∨ ∀ o ∈ p.options, (Value.ofText o).toText ∈ p.options) := by
  obtain ⟨_, _, _, _, stages⟩ := ofText_ok compiled
  have typed : p.OptionsTyped := stages.wellFormed.options_typed step asked
  have isList : p.questionType = .list := stages.labelled step asked options
  refine ⟨fun answer v r known accepted shows => ?_, AskedParameter.each_marks_denoted_iff typed isList,
    AskedParameter.each_marks_some_iff options typed isList⟩
  obtain ⟨kind, marks⟩ := shows.mem_marked labels isList
  exact ⟨kind, Prompt.body_of_options (.inr kind), marks⟩

theorem picked_marked_survey :
    Model.ofText surveyScript = .ok surveyModel ∧ surveyStep ∈ surveyModel.steps ∧
      surveyChoice ∈ surveyStep.asked ∧ surveyChoice.options ≠ [] ∧
      surveyChoice.accept (.ofText "keuze" "misschien") = .ok (.text "misschien") ∧
      ∃ r known, surveyChoice.Shows (.text "misschien") r known ∧
        (Prompt.ofResult surveyModel.labels r).kind = .select ∧
        "misschien" ∈ (Prompt.ofResult surveyModel.labels r).marked known ∧
        "ja" ∉ (Prompt.ofResult surveyModel.labels r).marked known := by
  have here : surveyStep ∈ surveyModel.steps := List.mem_singleton.mpr rfl
  have asked : surveyChoice ∈ surveyStep.asked := List.mem_singleton.mpr rfl
  have options : surveyChoice.options ≠ [] := by decide
  have accepted : surveyChoice.accept (.ofText "keuze" "misschien") = .ok (.text "misschien") := by decide
  obtain ⟨r, known, shows⟩ := surveyChoice.exists_shows (.text "misschien")
  obtain ⟨screens, _⟩ := picked_marked_iff ofText_surveyScript here asked options surveyModel.labels
  obtain ⟨kind, _, marks⟩ := screens _ _ _ _ accepted shows
  refine ⟨ofText_surveyScript, here, asked, options, accepted, r, known, shows, kind, ?_, ?_⟩
  · exact (marks _).mpr ⟨by decide, rfl⟩
  · exact fun crossed => absurd ((marks _).mp crossed).2 (by decide)

/-! ### Truth values among the options -/

/-- A script that offers a yes and a no, and asks for something else afterwards. -/
def marriageScript : String :=
  "steps:\n  - id: huwelijk\n    ask:\n      - \x7b name: gehuwd, options: [ja, nee] \x7d\n" ++
    "  - id: loon\n    ask:\n      - \x7b name: inkomen, type: Double \x7d\n"

def marriageQuestion : AskedParameter := ⟨"gehuwd", .list, .boolean, ["ja", "nee"], ""⟩

def marriageStep : Step :=
  ⟨"huwelijk", "", .question [marriageQuestion] .all, .step 1, ⟨⟨2, 5, 11⟩, ⟨2, 17, 23⟩⟩⟩

def marriageModel : Model where
  info := []
  constants := .empty
  steps := [marriageStep, ⟨"loon", "", .question [⟨"inkomen", .number, .number, [], ""⟩] .all,
    .finish none, ⟨⟨5, 5, 82⟩, ⟨5, 13, 90⟩⟩⟩]
  declarations := [⟨"gehuwd", .question 0, .boolean⟩, ⟨"inkomen", .question 1, .number⟩]

/-- A picked yes is kept as a truth value, which is written in another way than the option, so the screen
marks nothing, also when the interview goes back to it. -/
theorem picked_yes_unmarked :
    Model.ofText marriageScript = .ok marriageModel ∧ marriageStep ∈ marriageModel.steps ∧
      marriageQuestion ∈ marriageStep.asked ∧ "ja" ∈ marriageQuestion.options ∧
      marriageQuestion.accept (.ofText "gehuwd" "ja") = .ok (.boolean true) ∧
      Value.ofText "ja" = .boolean true ∧
      (∀ labels r known, marriageQuestion.Shows (.boolean true) r known →
        (Prompt.ofResult labels r).marked known = []) ∧
      ((Session.start marriageModel {}).toOption.bind fun s => (s.stepAll ["ja", "<"]).view.toOption) =
        some (.ask "\nHuwelijk\n  [ ] ja (ja)\n  [ ] nee (nee)\n> ") := by
  have made : Model.ofText marriageScript = .ok marriageModel := by
    have written : marriageScript = String.ofList _ := literal_append rfl rfl
    rw [Model.ofText_eq written]
    exact ok_of_toOption (by decide +kernel)
  refine ⟨made, List.mem_cons_self, List.mem_singleton.mpr rfl, by decide, by decide, by decide, ?_,
    by decide +kernel⟩
  intro labels r known shows
  refine List.eq_nil_iff_forall_not_mem.mpr fun o crossed => ?_
  obtain ⟨option, spelled⟩ := ((shows.mem_marked labels rfl).2 o).mp crossed
  subst spelled
  exact absurd option (by decide)

end Model

end Questionnaire
