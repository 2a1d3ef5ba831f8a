import Questionnaire.Interview.Session
import Questionnaire.Proofs.Run.Asking
import Questionnaire.Proofs.Run.Monotone
import Questionnaire.Proofs.Text.Cutting

/-!
What one line answers.

A line names one parameter: `Prompt.readLine?_eq_some`. To answer it with yes on a screen of radio buttons
answers every other parameter of the screen with no. That is meant for a choice, of which one option is
picked, but the buttons go by the type of the first parameter alone, so it happens to questions that do not
depend on each other too: `line_answers_iff`.
-/

namespace Questionnaire

/-! ### What a line names -/

/-- A line names a parameter and the text that it is answered with. In front of an equals sign stands any
name; a line without one is a radio button of the screen, or else the text for the only parameter. -/
inductive Prompt.Names (p : Prompt) (asked : ParameterStore) (line : String) : String → String → Prop
  | assigned {name text : List Char} (spelled : line.toList = name ++ '=' :: text)
      (first : '=' ∉ name) (named : String.ofList (Text.trim name) ≠ "") :
      p.Names asked line (String.ofList (Text.trim name)) (String.ofList (Text.trim text))
  | button (bare : '=' ∉ line.toList) (radio : p.kind = .radio) (offered : line ∈ asked.names)
      (named : line ≠ "") : p.Names asked line line "ja"
  | only {name : String} (bare : '=' ∉ line.toList)
      (noButton : ¬(p.kind = .radio ∧ line ∈ asked.names)) (alone : asked.names = [name])
      (named : name ≠ "") : p.Names asked line name line

/-- The parameters that are asked for beside a named one, answered with no. -/
def ParameterStore.declined (asked : ParameterStore) (name : String) : List Parameter :=
  (asked.names.filter (· ≠ name)).map fun other => .ofValue other (.boolean false)

/-- What a line may answer on a screen of a step: the parameter that it names, and if it picks an option of
a choice, the other options with no. -/
def Step.replies (q : Step) (asked : ParameterStore) (name text : String) : List Parameter :=
  if q.choice ≠ [] ∧ name ∈ asked.names ∧ Value.ofText text = .boolean true then
    .ofText name text :: asked.declined name
  else [.ofText name text]

theorem Value.ofText_no : ofText "nee" = .boolean false := by decide

theorem ParameterStore.declined_eq_nil {asked : ParameterStore} {name : String} :
    asked.declined name = [] ↔ ¬∃ other ∈ asked.names, other ≠ name := by
  rw [declined, List.map_eq_nil_iff, List.filter_eq_nil_iff]
  simp

namespace Prompt

variable {p : Prompt} {asked : ParameterStore} {line name text : String} {given : List Parameter}

theorem readLine?_eq_some : p.readLine? asked line = some (name, text) ↔ p.Names asked line name text := by
  unfold readLine?
  cases cut : Text.splitOnce? '=' line.toList with
  | some parts =>
    obtain ⟨before, after⟩ := parts
    obtain ⟨spelled, first⟩ := Text.splitOnce?_eq_some.mp cut
    have marked : '=' ∈ line.toList := by simp [spelled]
    simp only [String.isEmpty_iff, Option.ite_none_left_eq_some, Option.some.injEq, Prod.mk.injEq]
    constructor
    · rintro ⟨named, rfl, rfl⟩
      exact .assigned spelled first named
    · intro names
      cases names with
      | @assigned name' text' spelled' first' named =>
        have again := Text.splitOnce?_eq_some.mpr ⟨spelled', first'⟩
        rw [cut] at again
        cases again
        exact ⟨named, rfl, rfl⟩
      | button bare => exact absurd marked bare
      | only bare => exact absurd marked bare
  | none =>
    have bare := Text.splitOnce?_eq_none.mp cut
    simp only [ParameterStore.contains_iff]
    by_cases button : p.kind = .radio ∧ line ∈ asked.names
    · simp only [if_pos button, String.isEmpty_iff, Option.ite_none_left_eq_some, Option.some.injEq,
        Prod.mk.injEq]
      constructor
      · rintro ⟨named, rfl, rfl⟩
        exact .button bare button.1 button.2 named
      · intro names
        cases names with
        | assigned spelled => simp [spelled] at bare
        | button _ _ _ named => exact ⟨named, rfl, rfl⟩
        | only _ noButton => exact absurd button noButton
    · rw [if_neg button]
      constructor
      · intro read
        split at read
        · rename_i q alone
          simp only [String.isEmpty_iff, Option.ite_none_left_eq_some, Option.some.injEq,
            Prod.mk.injEq] at read
          obtain ⟨named, rfl, rfl⟩ := read
          exact .only bare button (by rw [ParameterStore.names, alone]; rfl) named
        · cases read
      · intro names
        cases names with
        | assigned spelled => simp [spelled] at bare
        | button _ radio offered => exact absurd ⟨radio, offered⟩ button
        | only _ _ alone named =>
          obtain ⟨q, listed, rfl⟩ := List.map_eq_singleton_iff.mp alone
          simp [listed, named]

theorem readAnswers?_eq_some : p.readAnswers? asked line = some given ↔
    ∃ name text, p.Names asked line name text ∧
      given = if p.kind = .radio ∧ Value.ofText text = .boolean true then
        .ofText name text :: asked.declined name else [.ofText name text] := by
  have refused (name : String) : ((asked.names.filter (· ≠ name)).map fun other =>
      Parameter.ofText other "nee") = asked.declined name := by
    simp only [ParameterStore.declined, Parameter.ofText, Value.ofText_no]
  unfold readAnswers?
  simp only [Option.bind_eq_bind, Option.bind_eq_some_iff, Prod.exists, readLine?_eq_some, refused]
  refine exists_congr fun name => exists_congr fun text => and_congr_right fun _ => ?_
  have value : (Parameter.ofText name text).value = Value.ofText text := by
    rw [Parameter.ofText, Parameter.ofValue]
  simp only [value, Option.pure_def]
  rw [← apply_ite some, Option.some.injEq, eq_comm]

/-- A screen has radio buttons just if the first parameter of it is a truth value. -/
theorem kind_ofResult {labels : Labels} {r : Result} (halted : r.isTerminal = false) :
    (ofResult labels r).kind = .radio ↔ r.askedType = .boolean := by
  have filled : r.questions.parameters.toList ≠ [] := List.isEmpty_eq_false_iff.mp halted
  unfold ofResult
  split
  · exact absurd ‹_› filled
  · cases r.askedType <;> simp [kindOf]

end Prompt

/-! ### Choices have radio buttons -/

theorem StepSite.build_choice {site : StepSite} {s : Step} (h : site.build = .ok s) :
    ∀ p ∈ s.choice, p.questionType = .boolean := by
  intro p option
  have kind := build_kind h
  rw [Step.kind_of_choice option] at kind
  rcases kind_ok kind with ⟨options, made⟩ | ⟨_, made⟩ | ⟨_, _, made⟩ | ⟨_, made⟩
  · simp only [StepSite.choice, fail, refuse_ok] at made
    obtain ⟨_, made⟩ := made
    obtain ⟨names, _, made⟩ := bind_ok.mp made
    obtain ⟨listed, _⟩ := StepKind.question.inj (pure_ok.mp made)
    rw [← listed] at option
    obtain ⟨_, _, rfl⟩ := List.mem_map.mp option
    rfl
  · obtain ⟨_, other, _⟩ := questions_sound made
    cases other
  · obtain ⟨_, other, _⟩ := derivation_ok made
    cases other
  · obtain ⟨_, _, _, _, other, _⟩ := gate_sound made
    cases other

@[simp] theorem Step.typed_choice (s : Step) (table : TypeTable) : (s.typed table).choice = s.choice := by
  unfold Step.typed Step.choice
  cases kind : s.kind <;> simp [kind]

namespace Model

variable {m : Model} {q : Step} {r : Result}

theorem CompiledFrom.choice_boolean {source : Source} {script : Script} {steps : List Step}
    {constants : ParameterStore} {declarations : List Declaration}
    (stages : CompiledFrom source script steps constants declarations m) (step : q ∈ m.steps) :
    ∀ p ∈ q.choice, p.questionType = .boolean := by
  obtain ⟨_, _, _, made, rfl⟩ := stages.exists_built step
  rw [Step.typed_choice]
  exact StepSite.build_choice made

theorem askedType_of_choice (asks : r.Asks q) (options : ∀ p ∈ q.choice, p.questionType = .boolean)
    (choice : q.choice ≠ []) : r.askedType = .boolean := by
  obtain ⟨first, others, listed⟩ := List.exists_cons_of_ne_nil asks.filled
  have shown : first ∈ r.questions.parameters.toList := listed ▸ List.mem_cons_self
  rw [asks.entries] at shown
  obtain ⟨p, kept, rfl⟩ := List.mem_map.mp shown
  obtain ⟨option, present⟩ := List.exists_mem_of_ne_nil _ choice
  have asked : q.asked = q.choice := by rw [Step.asked, Step.kind_of_choice present]
  rw [Result.askedType, listed]
  exact options p (asked ▸ (List.mem_filter.mp kept).1)

/-- A line answers the parameter that it names. If the first parameter of the screen is a truth value and
the text is a yes, it answers all others of the screen with no beside it. So a line answers just what it may,
unless it says yes on such a screen while something else is asked for there, and the step is no choice or
does not offer what the line names. -/
theorem line_answers_iff {text line : String} {config : Config} {answers : ParameterStore}
    {labels : Labels} {given : List Parameter} (compiled : Model.ofText text = .ok m)
    (ran : m.run config answers = .ok r) (halted : r.isTerminal = false)
    (read : (Prompt.ofResult labels r).readAnswers? r.questions.parameters line = some given) :
    ∃ q ∈ m.steps, r.Asks q ∧ ∃ name answer,
      (Prompt.ofResult labels r).Names r.questions.parameters line name answer ∧
      given = (if r.askedType = .boolean ∧ Value.ofText answer = .boolean true then
        .ofText name answer :: r.questions.parameters.declined name else [.ofText name answer]) ∧
      (given = q.replies r.questions.parameters name answer ↔
        ¬(r.askedType = .boolean ∧ Value.ofText answer = .boolean true ∧
          (∃ other ∈ r.questions.parameters.names, other ≠ name) ∧
          (q.choice = [] ∨ name ∉ r.questions.parameters.names))) := by
  obtain ⟨_, _, _, _, stages⟩ := ofText_ok compiled
  obtain ⟨q, step, asks⟩ := stages.asks_of_halted ran halted
  obtain ⟨name, answer, names, rfl⟩ := Prompt.readAnswers?_eq_some.mp read
  have buttons : q.choice ≠ [] → r.askedType = .boolean :=
    askedType_of_choice asks (stages.choice_boolean step)
  refine ⟨q, step, asks, name, answer, names, ?_, ?_⟩
  · simp only [Prompt.kind_ofResult halted]
  simp only [Prompt.kind_ofResult halted, Step.replies]
  by_cases picks : q.choice ≠ [] ∧ name ∈ r.questions.parameters.names ∧
      Value.ofText answer = .boolean true
  · obtain ⟨choice, offered, yes⟩ := picks
    simp [choice, offered, yes, buttons choice]
  · rw [if_neg picks]
    by_cases all : r.askedType = .boolean ∧ Value.ofText answer = .boolean true
    · have apart : q.choice = [] ∨ name ∉ r.questions.parameters.names := by
        by_contra both
        rw [not_or, not_not] at both
        exact picks ⟨both.1, both.2, all.2⟩
      rw [if_pos all, List.cons_eq_cons, ParameterStore.declined_eq_nil]
      simp [all, apart]
    · rw [if_neg all]
      simp only [true_iff]
      exact fun ⟨boolean, yes, _⟩ => all ⟨boolean, yes⟩

/-- What the script about a home asks for at first. -/
def homelessResult : Result where
  questions := ⟨"woning", .ofList [.question "huur" .boolean [], .question "koop" .boolean []]⟩
  parameters := .empty
  trace := [⟨"woning", "question", "", ["huur", "koop"]⟩]
  outcome := none

theorem line_answers_iff_home :
    Model.ofText homeScript = .ok homeModel ∧ homeModel.run {} .empty = .ok homelessResult ∧
      homelessResult.isTerminal = false ∧
      (Prompt.ofResult homeModel.labels homelessResult).readAnswers?
        homelessResult.questions.parameters "koop" =
          some [.ofText "koop" "ja", .ofValue "huur" (.boolean false)] ∧
      ∃ q ∈ homeModel.steps, homelessResult.Asks q ∧
        [.ofText "koop" "ja", .ofValue "huur" (.boolean false)] =
          q.replies homelessResult.questions.parameters "koop" "ja" := by
  have ran : homeModel.run {} .empty = .ok homelessResult := by decide
  have read : (Prompt.ofResult homeModel.labels homelessResult).readAnswers?
      homelessResult.questions.parameters "koop" =
        some [.ofText "koop" "ja", .ofValue "huur" (.boolean false)] := by decide
  obtain ⟨q, step, asks, name, answer, names, _, replies⟩ :=
    line_answers_iff ofText_homeScript ran rfl read
  have bare : '=' ∉ "koop".toList := by decide
  have choice : q.choice ≠ [] := by
    have label := asks.label
    have all : ∀ s ∈ homeModel.steps, s.id = "woning" → s.choice ≠ [] := by decide
    exact all q step label.symm
  cases names with
  | assigned spelled => simp [spelled] at bare
  | button _ _ offered =>
    exact ⟨ofText_homeScript, ran, rfl, read, q, step, asks,
      replies.mpr fun ⟨_, _, _, apart⟩ => apart.elim choice (absurd offered)⟩
  | only _ noButton => exact absurd (by decide) noButton

/-! ### Independent questions -/

/-- A script that asks two questions that have nothing to do with each other. -/
def familyScript : String :=
  "steps:\n  - id: gezin\n    ask:\n      - \x7b name: gehuwd, type: bool \x7d\n" ++
    "      - \x7b name: kinderen, type: bool \x7d\n"

def familyStep : Step :=
  ⟨"gezin", "", .question [⟨"gehuwd", .boolean, .boolean, [], ""⟩,
    ⟨"kinderen", .boolean, .boolean, [], ""⟩] .all, .finish none, ⟨⟨2, 5, 11⟩, ⟨2, 14, 20⟩⟩⟩

def familyModel : Model :=
  ⟨[], .empty, [familyStep], [⟨"gehuwd", .question 0, .boolean⟩, ⟨"kinderen", .question 0, .boolean⟩]⟩

def familyResult : Result where
  questions := ⟨"gezin", .ofList [.question "gehuwd" .boolean [], .question "kinderen" .boolean []]⟩
  parameters := .empty
  trace := [⟨"gezin", "question", "", ["gehuwd", "kinderen"]⟩]
  outcome := none

/-- Yes to one of two questions is no to the other, though the step is no choice, and yes to something that
is not on the screen is no to both. -/
theorem unnamed_questions_denied :
    Model.ofText familyScript = .ok familyModel ∧ familyModel.run {} .empty = .ok familyResult ∧
      familyResult.isTerminal = false ∧ familyResult.Asks familyStep ∧ familyStep.choice = [] ∧
      (Prompt.ofResult familyModel.labels familyResult).readAnswers?
        familyResult.questions.parameters "gehuwd=ja" =
          some [.ofText "gehuwd" "ja", .ofValue "kinderen" (.boolean false)] ∧
      (Prompt.ofResult familyModel.labels familyResult).readAnswers?
        familyResult.questions.parameters "partner=ja" =
          some [.ofText "partner" "ja", .ofValue "gehuwd" (.boolean false),
            .ofValue "kinderen" (.boolean false)] ∧
      familyStep.replies familyResult.questions.parameters "gehuwd" "ja" = [.ofText "gehuwd" "ja"] ∧
      familyStep.replies familyResult.questions.parameters "partner" "ja" = [.ofText "partner" "ja"] := by
  have asks : familyResult.Asks familyStep := {
    isQuestion := rfl
    outcome := rfl
    label := rfl
    entries := by decide
    shown := by decide
    filled := by decide
    halted := rfl }
  have made : Model.ofText familyScript = .ok familyModel := by
    have written : familyScript = String.ofList _ := literal_append rfl rfl
    rw [Model.ofText_eq written]
    exact ok_of_toOption (by decide +kernel)
  refine ⟨made, by decide, rfl, asks, rfl, by decide, by decide, ?_, ?_⟩
  · exact if_neg fun picks => picks.1 rfl
  · exact if_neg fun picks => picks.1 rfl

end Model

end Questionnaire
