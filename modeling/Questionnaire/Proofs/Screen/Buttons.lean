import Questionnaire.Proofs.Answers.Options
import Questionnaire.Proofs.Answers.Taken
import Questionnaire.Proofs.Interview.Lines
import Questionnaire.Proofs.Screen.Elements

/-!
Radio buttons and what becomes of a yes to them.

A screen has radio buttons when its first question is for a truth value, but every question of the screen
becomes a button. A yes to a question is taken if it reads as its type and is one of its options. So all
buttons can be picked just if everything that is left of the step takes a yes: `buttons_pickable_iff`.
-/

namespace Questionnaire

/-! ### Refused answers -/

namespace Model

variable {m : Model} {config : Config} {answers : ParameterStore} {p : Parameter} {r : Result}
  {name : String} {fault : AnswerFault}

theorem walk_ne_invalidAnswer {limit left : Nat} {w : Walk} {target : Target} :
    m.walk limit left w target ≠ .error (.invalidAnswer name fault) := by
  intro refused
  rcases walk_cases m limit left w target with ⟨_, _, _, spent⟩ | ⟨_, _, _, _, _, stops⟩
  · rw [refused] at spent
    cases spent
  · rw [refused] at stops
    cases stops with
    | failed _ _ failed =>
      rcases visit_error failed with ⟨_, other⟩ | ⟨_, other⟩ <;> cases other

/-- A run refuses an answer just if it does not accept all of them. -/
theorem run_refuses_iff : (∃ name fault, m.run config answers = .error (.invalidAnswer name fault)) ↔
    ¬∀ answer ∈ answers.toList, m.Accepts config.strictAnswers answer := by
  constructor
  · rintro ⟨name, fault, refused⟩ accepts
    have normal : m.normalize config.strictAnswers answers = .ok _ :=
      acceptAnswers_ok_iff.mpr ⟨accepts, rfl⟩
    rw [run_of_normalize normal] at refused
    exact walk_ne_invalidAnswer refused
  · intro refuses
    cases normal : m.normalize config.strictAnswers answers with
    | ok known => exact absurd (normalize_ok_iff.mp normal).1 refuses
    | error e =>
      obtain ⟨name, fault, rfl⟩ := acceptAnswers_error normal
      refine ⟨name, fault, ?_⟩
      rw [run, normal]
      rfl

/-- Where a run has a result, a further answer is what makes it refuse the answers. -/
theorem run_refuses_insert (ran : m.run config answers = .ok r) :
    (∃ name fault, m.run config (answers.insert p) = .error (.invalidAnswer name fault)) ↔
      ¬m.Accepts config.strictAnswers p := by
  obtain ⟨known, normal, _⟩ := bind_ok.mp ran
  obtain ⟨accepts, _⟩ := normalize_ok_iff.mp normal
  rw [run_refuses_iff, not_iff_not]
  constructor
  · intro all
    have written : (answers.insert p).get? p.name = some p :=
      (ParameterStore.get?_insert _ _ _).trans (if_pos rfl)
    exact all p (ParameterStore.get?_eq_some.mp written).1
  · intro here answer member
    rcases ParameterStore.mem_insert member with rfl | before
    · exact here
    · exact accepts answer before

end Model

/-! ### A yes to a question -/

theorem Value.coerce?_yes (t : AnswerType) : (boolean true).coerce? t =
    match t with
    | .boolean | .unknown => some (boolean true)
    | .text => some (text "true")
    | .list => some (list "true" [])
    | .number | .moment | .timeSpan | .period => none := by
  cases t <;> rfl

theorem Value.ofText_type_ne_list (s : String) : (ofText s).type ≠ .list := by
  rcases ofText_cases s with kept | ⟨_, other, _⟩
  · simp [kept, type]
  · exact other

namespace AskedParameter

variable {p : AskedParameter}

/-- A question to which a yes is an answer: whatever reads a yes, without options or with one for it. -/
def TakesYes (p : AskedParameter) : Prop :=
  (p.options = [] ∧ p.valueType ∈ [.boolean, .text, .list, .unknown]) ∨
    (p.valueType = .boolean ∧ ∃ o ∈ p.options, Value.ofText o = .boolean true) ∨
    (p.valueType = .text ∧ "true" ∈ p.options)

theorem isOption_yes {o : String} :
    (Value.boolean true).isOption o = true ↔ Value.ofText o = .boolean true := by
  have reads : Value.ofText "true" = .boolean true := by decide
  unfold Value.isOption
  rw [Bool.or_eq_true, beq_iff_eq]
  constructor
  · rintro (rfl | same)
    · exact reads
    · cases value : Value.ofText o with
      | boolean b => simpa [value, Value.same] using same
      | _ => simp [value, Value.same] at same
  · intro value
    exact .inr (value ▸ Value.same_refl _)

theorem accept_yes_iff (typed : p.OptionsTyped) :
    (∃ v, p.accept (.ofText p.name "ja") = .ok v) ↔ p.TakesYes := by
  have yes : (Parameter.ofText p.name "ja").value = .boolean true := by
    show Value.ofText "ja" = _
    decide
  -- What is a list, or has any type, has no options.
  have free (none : ∀ s, (Value.ofText s).type ≠ p.valueType) (other : p.valueType ≠ .text) :
      p.options = [] := by
    refine List.eq_nil_iff_forall_not_mem.mpr fun o option => ?_
    exact none o (typed.resolve_left other o option)
  simp only [accept_ok_iff, yes, Value.coerce?_yes, TakesYes]
  cases type : p.valueType with
  | boolean => simp [isOption_yes]
  | text => simp [Value.isOption_text]
  | list => simp [free (type ▸ Value.ofText_type_ne_list) (by simp [type])]
  | unknown => simp [free (type ▸ Value.ofText_type_ne_unknown) (by simp [type])]
  | number | moment | timeSpan | period => simp

theorem takesYes_iff_of_boolean (boolean : p.valueType = .boolean) :
    p.TakesYes ↔ p.options = [] ∨ ∃ o ∈ p.options, Value.ofText o = .boolean true := by
  simp [TakesYes, boolean]

end AskedParameter

theorem Result.Asks.radioKeys {r : Result} {q : Step} {labels : Labels} (asks : r.Asks q)
    (radio : (Prompt.ofResult labels r).kind = .radio) (key : String) :
    key ∈ (Prompt.ofResult labels r).options.map (·.1) ↔
      ∃ p ∈ q.asked, p.name ∉ r.parameters.names ∧ p.name = key := by
  obtain ⟨first, others, listed⟩ := List.exists_cons_of_ne_nil asks.filled
  rw [Prompt.ofResult_of_cons listed] at radio ⊢
  simp only at radio ⊢
  rw [radio, Prompt.mem_radioKeys, ← listed, asks.entries, List.map_map]
  simp [AskedParameter.question, Parameter.question, and_assoc]

namespace Model

variable {m : Model} {config : Config} {answers : ParameterStore} {p : AskedParameter} {q : Step}
  {r : Result} {labels : Labels}

theorem WellFormed.accepts_yes_iff (wellFormed : m.WellFormed) (step : q ∈ m.steps) (asked : p ∈ q.asked)
    (strict : Bool) : m.Accepts strict (.ofText p.name "ja") ↔ p.TakesYes := by
  have taken := wellFormed.acceptAnswer_asked step asked strict .empty (.ofText p.name "ja") rfl
    (Parameter.ofText_isUnknown _ _)
  rw [Accepts, taken, ← AskedParameter.accept_yes_iff (wellFormed.options_typed step asked)]
  constructor
  · rintro ⟨_, written⟩
    obtain ⟨v, accepted, _⟩ := map_ok.mp written
    exact ⟨v, accepted⟩
  · rintro ⟨v, accepted⟩
    exact ⟨_, map_ok.mpr ⟨v, accepted, rfl⟩⟩

/-- The options of a choice are truth values, any of which may be picked. -/
theorem CompiledFrom.choice_free {source : Source} {script : Script} {steps : List Step}
    {constants : ParameterStore} {declarations : List Declaration}
    (stages : CompiledFrom source script steps constants declarations m) (step : q ∈ m.steps)
    (option : p ∈ q.choice) : p.valueType = .boolean ∧ p.options = [] := by
  have asked : p ∈ q.asked := Step.asked_of_choice option
  refine ⟨?_, ?_⟩
  · obtain ⟨_, _, _, made, rfl⟩ := stages.exists_built step
    rw [Step.typed_choice] at option
    have labelled := StepSite.build_labelled made
    rw [Step.kind_of_choice option] at labelled
    exact (labelled p option).1 rfl
  · by_contra options
    have boolean := stages.choice_boolean step p option
    rw [stages.labelled step asked options] at boolean
    cases boolean

/-- A screen has radio buttons for all that is left of the step that asks, if the first of it is a truth
value. A yes to one of them is refused just if the question does not take it. So every button is a question
for a truth value that can be picked just if everything that is left is such a question and has no options
or one that reads as a yes. A choice is such a step. -/
theorem buttons_pickable_iff {text : String} (compiled : Model.ofText text = .ok m)
    (ran : m.run config answers = .ok r) (halted : r.isTerminal = false)
    (radio : (Prompt.ofResult labels r).kind = .radio) :
    ∃ q ∈ m.steps, r.Asks q ∧
      (∀ key, key ∈ (Prompt.ofResult labels r).options.map (·.1) ↔
        ∃ p ∈ q.asked, p.name ∉ r.parameters.names ∧ p.name = key) ∧
      (∀ p ∈ q.asked, (∃ name fault, m.run config (answers.insert (.ofText p.name "ja")) =
        .error (.invalidAnswer name fault)) ↔ ¬p.TakesYes) ∧
      ((∀ key ∈ (Prompt.ofResult labels r).options.map (·.1),
          (∃ p ∈ q.asked, p.name = key ∧ p.valueType = .boolean) ∧
          ¬∃ name fault, m.run config (answers.insert (.ofText key "ja")) =
            .error (.invalidAnswer name fault)) ↔
        ∀ p ∈ q.asked, p.name ∉ r.parameters.names →
          p.valueType = .boolean ∧ (p.options = [] ∨ ∃ o ∈ p.options, Value.ofText o = .boolean true)) ∧
      (q.choice ≠ [] → ∀ p ∈ q.asked, p.valueType = .boolean ∧ p.options = []) := by
  obtain ⟨_, _, _, _, stages⟩ := ofText_ok compiled
  obtain ⟨q, step, asks⟩ := stages.asks_of_halted ran halted
  have keys := asks.radioKeys radio
  have refused (p : AskedParameter) (asked : p ∈ q.asked) :
      (∃ name fault, m.run config (answers.insert (.ofText p.name "ja")) =
        .error (.invalidAnswer name fault)) ↔ ¬p.TakesYes := by
    rw [run_refuses_insert ran, stages.wellFormed.accepts_yes_iff step asked]
  refine ⟨q, step, asks, keys, refused, ?_, ?_⟩
  · constructor
    · intro pickable p asked left
      obtain ⟨⟨p', asked', named, boolean⟩, taken⟩ := pickable p.name ((keys _).mpr ⟨p, asked, left, rfl⟩)
      have same : p' = p :=
        List.inj_on_of_nodup_map (stages.wellFormed.distinct q step) asked' asked named
      subst same
      rw [refused p' asked, not_not] at taken
      exact ⟨boolean, (AskedParameter.takesYes_iff_of_boolean boolean).mp taken⟩
    · intro booleans key button
      obtain ⟨p, asked, left, rfl⟩ := (keys key).mp button
      obtain ⟨boolean, yes⟩ := booleans p asked left
      refine ⟨⟨p, asked, rfl, boolean⟩, ?_⟩
      rw [refused p asked, not_not]
      exact (AskedParameter.takesYes_iff_of_boolean boolean).mpr yes
  · intro choice p asked
    obtain ⟨option, present⟩ := List.exists_mem_of_ne_nil _ choice
    have same : q.asked = q.choice := by rw [Step.asked, Step.kind_of_choice present]
    exact stages.choice_free step (same ▸ asked)

theorem buttons_pickable_home :
    Model.ofText homeScript = .ok homeModel ∧ homeModel.run {} .empty = .ok homelessResult ∧
      homelessResult.isTerminal = false ∧
      (Prompt.ofResult homeModel.labels homelessResult).kind = .radio ∧
      (Prompt.ofResult homeModel.labels homelessResult).options.map (·.1) = ["huur", "koop"] ∧
      ∀ key ∈ ["huur", "koop"], ¬∃ name fault,
        homeModel.run {} (.insert .empty (.ofText key "ja")) = .error (.invalidAnswer name fault) := by
  have ran : homeModel.run {} .empty = .ok homelessResult := by decide
  have radio : (Prompt.ofResult homeModel.labels homelessResult).kind = .radio := by decide
  have keys : (Prompt.ofResult homeModel.labels homelessResult).options.map (·.1) = ["huur", "koop"] := by
    decide
  refine ⟨ofText_homeScript, ran, rfl, radio, keys, ?_⟩
  obtain ⟨q, step, asks, _, _, pickable, free⟩ := buttons_pickable_iff ofText_homeScript ran rfl radio
  have choice : q.choice ≠ [] := by
    have all : ∀ s ∈ homeModel.steps, s.id = "woning" → s.choice ≠ [] := by decide
    exact all q step asks.label.symm
  have every := pickable.mpr fun p asked _ => ⟨(free choice p asked).1, .inl (free choice p asked).2⟩
  intro key button
  exact (every key (keys ▸ button)).2

/-! ### A number among truth values -/

/-- A script that asks for a truth value and a number together. -/
def householdScript : String :=
  "steps:\n  - id: gezin\n    ask:\n      - \x7b name: gehuwd, type: bool \x7d\n" ++
    "      - \x7b name: inkomen, type: Double \x7d\n"

def householdStep : Step :=
  ⟨"gezin", "", .question [⟨"gehuwd", .boolean, .boolean, [], ""⟩, ⟨"inkomen", .number, .number, [], ""⟩]
    .all, .finish none, ⟨⟨2, 5, 11⟩, ⟨2, 14, 20⟩⟩⟩

def householdModel : Model :=
  ⟨[], .empty, [householdStep],
    [⟨"gehuwd", .question 0, .boolean⟩, ⟨"inkomen", .question 0, .number⟩]⟩

def householdResult : Result where
  questions := ⟨"gezin", .ofList [.question "gehuwd" .boolean [], .question "inkomen" .number []]⟩
  parameters := .empty
  trace := [⟨"gezin", "question", "", ["gehuwd", "inkomen"]⟩]
  outcome := none

/-- The number is offered as a radio button, and a yes to it is refused. The other button cannot be picked
either, as this answers the number with no. -/
theorem number_offered_as_button :
    Model.ofText householdScript = .ok householdModel ∧
      householdModel.run {} .empty = .ok householdResult ∧ householdResult.isTerminal = false ∧
      (Prompt.ofResult householdModel.labels householdResult).kind = .radio ∧
      "inkomen" ∈ (Prompt.ofResult householdModel.labels householdResult).options.map (·.1) ∧
      (∀ p ∈ householdStep.asked, p.name = "inkomen" → p.valueType = .number) ∧
      householdModel.run {} (.insert .empty (.ofText "inkomen" "ja")) =
        .error (.invalidAnswer "inkomen" (.wrongType "true" .number)) ∧
      ∃ given, (Prompt.ofResult householdModel.labels householdResult).readAnswers?
          householdResult.questions.parameters "gehuwd" = some given ∧
        householdModel.run {} (.insertAll .empty given) =
          .error (.invalidAnswer "inkomen" (.wrongType "false" .number)) := by
  have made : Model.ofText householdScript = .ok householdModel := by
    have written : householdScript = String.ofList _ := literal_append rfl rfl
    rw [Model.ofText_eq written]
    exact ok_of_toOption (by decide +kernel)
  have read : (Prompt.ofResult householdModel.labels householdResult).readAnswers?
      householdResult.questions.parameters "gehuwd" =
        some [.ofText "gehuwd" "ja", .ofText "inkomen" "nee"] := by decide
  exact ⟨made, by decide, rfl, by decide, by decide, by decide, by decide, _, read, by decide⟩

end Model

end Questionnaire
