import Questionnaire.Proofs.Model.Parts
import Questionnaire.Proofs.Run.Cycles

/-!
What runs ask for.

A run that halts asks for the parameters of one question step that are not among those it knows. What
is there under the name of a question has a value, so these are just the parameters of the step without
a value, and as a run halts only where some are left, a halted run is never taken for a finished one:
`run_asks`.
-/

namespace Questionnaire

def AskedParameter.question (p : AskedParameter) : Parameter :=
  .question p.name p.questionType p.options

theorem AskedParameter.question_options {p : AskedParameter}
    (labelled : p.options ≠ [] → p.questionType = .list) : p.question.options = p.options := by
  unfold question Parameter.question Parameter.options
  by_cases free : p.options = []
  · simp [free, Value.ofItems, Value.items]
  · rw [if_pos (labelled free), Value.items_ofItems]

theorem ParameterStore.isKnown_of_mem {known : ParameterStore} {p : Parameter}
    (member : p ∈ known.toList) (given : p.value.isUnknown = false) :
    known.isKnown p.name = true := by
  have found := get?_eq_some.mpr ⟨member, rfl⟩
  simp [isKnown, value, found, given]

theorem Step.isQuestion_of_hasOpen {s : Step} {known : ParameterStore}
    (asksMore : s.hasOpen known = true) : s.isQuestion = true := by
  obtain ⟨p, member, _⟩ := List.any_eq_true.mp asksMore
  unfold asked at member
  unfold isQuestion
  cases kind : s.kind with
  | question => rfl
  | _ => simp [kind] at member

/-- A result that asks, on a question step, for the parameters of the step that it does not have, which
are some: in the order of the step and with the types and options of their questions. -/
structure Result.Asks (r : Result) (q : Step) : Prop where
  isQuestion : q.isQuestion = true
  outcome : r.outcome = none
  label : r.questions.label = q.id
  entries : r.questions.parameters.toList =
    (q.asked.filter fun p => p.name ∉ r.parameters.names).map (·.question)
  shown : r.questions.parameters.toList.map (fun e => (e.name, e.type, e.options)) =
    (q.asked.filter fun p => p.name ∉ r.parameters.names).map
      fun p => (p.name, p.questionType, p.options)
  filled : r.questions.parameters.toList ≠ []
  halted : r.isTerminal = false

namespace Model

variable {m : Model} {known : ParameterStore} {q : Step} {p : AskedParameter} {strict : Bool}
  {answers : ParameterStore} {n : Nat} {w : Walk} {target target' : Target}

/-- Every step was built from one of the script, and typed after that. -/
theorem CompiledFrom.exists_built {source : Source} {script : Script} {steps : List Step}
    {constants : ParameterStore} {declarations : List Declaration}
    (stages : CompiledFrom source script steps constants declarations m) (step : q ∈ m.steps) :
    ∃ site built table, StepSite.build site = .ok built ∧ built.typed table = q := by
  obtain ⟨index, found⟩ := List.mem_iff_getElem?.mp step
  obtain ⟨built, there, typed⟩ := stages.step_eq_some.mp found
  obtain ⟨_, _, made⟩ := buildSteps_getElem? stages.built there
  exact ⟨_, built, _, made, typed⟩

theorem CompiledFrom.labelled {source : Source} {script : Script} {steps : List Step}
    {constants : ParameterStore} {declarations : List Declaration}
    (stages : CompiledFrom source script steps constants declarations m) (step : q ∈ m.steps)
    (member : p ∈ q.asked) : p.options ≠ [] → p.questionType = .list := by
  obtain ⟨_, built, _, made, rfl⟩ := stages.exists_built step
  have labelled := StepSite.build_labelled made
  unfold Step.typed Step.asked at member
  cases kind : built.kind with
  | question parameters mode =>
    simp only [kind] at member
    rw [kind] at labelled
    exact (labelled p member).2
  | _ => simp [kind] at member

theorem Rounds.isKnown_asked (wellFormed : m.WellFormed)
    (normal : m.normalize strict answers = .ok known)
    (rounds : m.Rounds n (.start known) target w target') (step : q ∈ m.steps)
    (asked : p ∈ q.asked) : w.known.isKnown p.name = true ↔ p.name ∈ w.known.names := by
  refine ⟨ParameterStore.names_of_isKnown, fun present => ?_⟩
  obtain ⟨e, member, named⟩ := List.mem_map.mp present
  obtain ⟨writes, appends, _⟩ :=
    rounds.writes_once wellFormed (wellFormed.start_consistent normal)
  obtain ⟨index, found⟩ := List.mem_iff_getElem?.mp step
  have origin := wellFormed.origin?_asked found asked
  have held := member
  rw [appends.appended, List.mem_append] at held
  rcases held with before | written
  · rw [← named]
    exact ParameterStore.isKnown_of_mem member (normalize_known normal e before)
  · obtain ⟨_, derived⟩ := wellFormed.mem_derivedNames.mp (appends.derived e written)
    rw [named, origin] at derived
    cases derived

theorem WellFormed.batch_toList (wellFormed : m.WellFormed) (step : q ∈ m.steps) :
    (q.batch known).parameters.toList =
      (q.asked.filter fun p => !known.isKnown p.name).map (·.question) := by
  refine ParameterStore.toList_ofList ?_
  rw [List.map_map]
  exact (wellFormed.distinct q step).sublist (List.filter_sublist.map _)

theorem CompiledFrom.asks {source : Source} {script : Script} {steps : List Step}
    {constants : ParameterStore} {declarations : List Declaration}
    (stages : CompiledFrom source script steps constants declarations m)
    (normal : m.normalize strict answers = .ok known)
    (rounds : m.Rounds n (.start known) target w target') (step : q ∈ m.steps)
    (asksMore : q.hasOpen w.known = true) (trace : List Visited) :
    Result.Asks ⟨q.batch w.known, w.known, trace, none⟩ q := by
  have entries : (q.batch w.known).parameters.toList =
      (q.asked.filter fun p => p.name ∉ w.known.names).map (·.question) := by
    rw [stages.wellFormed.batch_toList step]
    congr 1
    refine List.filter_congr fun p asked => ?_
    rw [Bool.eq_iff_iff, decide_eq_true_iff,
      ← rounds.isKnown_asked stages.wellFormed normal step asked]
    simp
  have halted : (q.batch w.known).parameters.isEmpty = false := by
    rw [Step.batch_isEmpty, asksMore]
    rfl
  exact {
    isQuestion := Step.isQuestion_of_hasOpen asksMore
    outcome := rfl
    label := rfl
    entries
    shown := by
      show (q.batch w.known).parameters.toList.map _ = _
      rw [entries, List.map_map]
      refine List.map_congr_left fun p listed => ?_
      have labelled := stages.labelled step (List.mem_filter.mp listed).1
      simp only [Function.comp_apply, AskedParameter.question_options labelled]
      rfl
    filled := List.isEmpty_eq_false_iff.mp halted
    halted }

theorem CompiledFrom.asks_of_halted {source : Source} {script : Script} {steps : List Step}
    {constants : ParameterStore} {declarations : List Declaration} {config : Config} {r : Result}
    (stages : CompiledFrom source script steps constants declarations m)
    (ran : m.run config answers = .ok r) (halted : r.isTerminal = false) :
    ∃ q ∈ m.steps, r.Asks q := by
  obtain ⟨_, _, w, _, normal, rounds, ends⟩ := stages.wellFormed.run_ends ran
  cases ends with
  | finished outcome => cases halted
  | @halted _ _ _ q _ _ _ _ there asksMore =>
    have step := List.mem_of_getElem? there
    exact ⟨q, step, stages.asks normal rounds step asksMore _⟩

/-- A result is terminal just if the run reached an end. Then it asks for nothing and has the outcome
of that end. Else the run halted, has no outcome, and asks for what is left of a question step. -/
theorem run_asks {text : String} {config : Config} {r : Result}
    (compiled : Model.ofText text = .ok m) (h : m.run config answers = .ok r) :
    ∃ known n w target, m.normalize config.strictAnswers answers = .ok known ∧
      m.Rounds n (.start known) (.step 0) w target ∧ r.parameters = w.known ∧
      ((target = .finish r.outcome ∧ r.questions = .none ∧ r.isTerminal = true) ∨
        ∃ index s v question q, target = .step index ∧ m.steps[index]? = some s ∧
          m.visit w.known index s = .ok v ∧ v.flow = .ask question ∧
          m.steps[question]? = some q ∧ r.Asks q) := by
  obtain ⟨_, _, _, _, stages⟩ := ofText_ok compiled
  obtain ⟨known, n, w, target, normal, rounds, ends⟩ := stages.wellFormed.run_ends h
  refine ⟨known, n, w, target, normal, rounds, ends.parameters, ?_⟩
  cases ends with
  | finished outcome => exact Or.inl ⟨rfl, rfl, rfl⟩
  | @halted index question s q v found visited asks there asksMore =>
    exact Or.inr ⟨index, s, v, question, q, rfl, found, visited, asks, there,
      stages.asks normal rounds (List.mem_of_getElem? there) asksMore _⟩

/-- What the looping script asks for at first. -/
def openResult : Result where
  questions := ⟨"keuze", .ofList [.question "kort" .boolean [], .question "lang" .boolean []]⟩
  parameters := .empty
  trace := [⟨"keuze", "question", "", ["kort", "lang"]⟩]
  outcome := none

theorem run_asks_loop :
    Model.ofText loopScript = .ok loopModel ∧ loopModel.run {} .empty = .ok openResult ∧
      ∃ q ∈ loopModel.steps, openResult.Asks q := by
  have ran : loopModel.run {} .empty = .ok openResult := by decide
  obtain ⟨_, _, _, _, _, _, _, ⟨_, _, terminal⟩ | ⟨_, _, _, _, q, _, _, _, _, there, asks⟩⟩ :=
    run_asks ofText_loopScript ran
  · exact absurd terminal (by decide)
  · exact ⟨ofText_loopScript, ran, q, List.mem_of_getElem? there, asks⟩

end Model

end Questionnaire
