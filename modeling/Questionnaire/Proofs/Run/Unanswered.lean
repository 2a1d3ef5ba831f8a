import Questionnaire.Proofs.Model.Ids
import Questionnaire.Proofs.Run.Asking
import Questionnaire.Proofs.Run.Monotone

/-!
Whether the step that a run halts on is answered.

A run halts on an unanswered question, on the step that asks for a missing name, or on the fallback of
a gate. The first two are never answered. A fallback is taken as long as one of its parameters is
unknown, so it is answered exactly if it is a choice with a known option: `run_asks_answered_iff`.
-/

namespace Questionnaire

namespace Step

variable {s : Step} {known : ParameterStore} {p : AskedParameter}

theorem isAnswered_of_choice (option : p ∈ s.choice) (here : known.isKnown p.name = true) :
    s.isAnswered known = true := by
  unfold isAnswered
  rw [kind_of_choice option]
  exact List.any_eq_true.mpr ⟨p, option, here⟩

/-- An answered step that has something left to ask is a choice with a known option. -/
theorem choice_of_isAnswered (answered : s.isAnswered known = true)
    (asksMore : s.hasOpen known = true) : ∃ p ∈ s.choice, known.isKnown p.name = true := by
  obtain ⟨q, member, unknown⟩ := List.any_eq_true.mp asksMore
  unfold asked at member
  unfold isAnswered at answered
  unfold choice
  cases kind : s.kind with
  | question parameters mode =>
    rw [kind] at member answered
    cases mode with
    | all => simp [List.all_eq_true.mp answered q member] at unknown
    | anyOf => exact List.any_eq_true.mp answered
  | _ => simp [kind] at member

/-- An answered step without unknown options has nothing left to ask. -/
theorem hasOpen_eq_false (answered : s.isAnswered known = true)
    (picked : ∀ p ∈ s.choice, known.isKnown p.name = true) : s.hasOpen known = false := by
  rw [Bool.eq_false_iff]
  intro asksMore
  obtain ⟨p, option, _⟩ := choice_of_isAnswered answered asksMore
  obtain ⟨q, member, unknown⟩ := List.any_eq_true.mp asksMore
  have member : q ∈ s.choice := by
    unfold asked at member
    rwa [kind_of_choice option] at member
  simp [picked q member] at unknown

end Step

namespace Model

variable {m : Model} {known : ParameterStore} {s q : Step} {index question : Nat} {v : Visit}
  {name : String}

/-- The step that asks for a name without a value is unanswered: if it were a choice with a known
option, the name would be false. -/
theorem WellFormed.isAnswered_eq_false (wellFormed : m.WellFormed)
    (there : m.steps[question]? = some q) (asked : name ∈ q.askedNames)
    (missing : m.scope known name = none) : q.isAnswered known = false := by
  have unknown := isKnown_of_scope_none missing
  have asksMore := hasOpen_of_asked asked unknown
  rw [Bool.eq_false_iff]
  intro answered
  obtain ⟨p, option, here⟩ := Step.choice_of_isAnswered answered asksMore
  have named : name ∈ q.choice.map (·.name) := by
    rwa [Step.askedNames, Step.asked, Step.kind_of_choice option] at asked
  have closed : m.isClosedOption known name = true :=
    wellFormed.isClosedOption_iff.mpr ⟨q, List.mem_of_getElem? there, named, p, option, here⟩
  unfold scope at missing
  split at missing
  · cases missing
  · simp [unknown, closed] at missing

/-- The step that a visit halts on is answered just if it is the fallback of the step that is visited
and a choice with a known option. -/
theorem WellFormed.visit_answered_iff (wellFormed : m.WellFormed)
    (found : m.steps[index]? = some s) (visited : m.visit known index s = .ok v)
    (asks : v.flow = .ask question) (there : m.steps[question]? = some q) :
    q.isAnswered known = true ↔
      s.fallback? = some question ∧ ∃ p ∈ q.choice, known.isKnown p.name = true := by
  constructor
  · intro answered
    obtain ⟨_, ⟨rfl, _, unanswered⟩ | ⟨name, misses, chosen⟩⟩ := visit_ask visited asks
    · cases found.symm.trans there
      exact absurd (unanswered.symm.trans answered) Bool.false_ne_true
    · rcases questionFor_ok chosen with ⟨fallback, q', there', asksMore⟩ | ⟨_, origin⟩
      · cases there.symm.trans there'
        exact ⟨fallback, Step.choice_of_isAnswered answered asksMore⟩
      · obtain ⟨q', there', asked⟩ := (wellFormed.question name question).mp origin
        cases there.symm.trans there'
        have unanswered := wellFormed.isAnswered_eq_false there asked (scope_of_misses misses)
        exact absurd (unanswered.symm.trans answered) Bool.false_ne_true
  · rintro ⟨_, p, option, here⟩
    exact Step.isAnswered_of_choice option here

/-- Past an answered fallback without unknown options a visit halts on the step that asks for the
missing name. -/
theorem WellFormed.visit_past_fallback (wellFormed : m.WellFormed)
    (visited : m.visit known index s = .ok v) (asks : v.flow = .ask question)
    (there : m.steps[question]? = some q) {fallback : Nat} {f : Step}
    (given : s.fallback? = some fallback) (target : m.steps[fallback]? = some f)
    (answered : f.isAnswered known = true)
    (picked : ∀ p ∈ f.choice, known.isKnown p.name = true) :
    ∃ name, s.Misses m known name ∧ m.origin? name = some (.question question) ∧
      name ∈ q.askedNames := by
  have closed := Step.hasOpen_eq_false answered picked
  obtain ⟨_, ⟨_, isQuestion, _⟩ | ⟨name, misses, chosen⟩⟩ := visit_ask visited asks
  · unfold Step.fallback? at given
    unfold Step.isQuestion at isQuestion
    cases kind : s.kind with
    | question => simp [kind] at given
    | _ => simp [kind] at isQuestion
  · rcases questionFor_ok chosen with ⟨same, f', target', asksMore⟩ | ⟨_, origin⟩
    · cases given.symm.trans same
      cases target.symm.trans target'
      exact absurd (closed.symm.trans asksMore) Bool.false_ne_true
    · obtain ⟨q', there', asked⟩ := (wellFormed.question name question).mp origin
      cases there.symm.trans there'
      exact ⟨name, misses, origin, asked⟩

/-- A run that halts does so on a step that counts as answered exactly if that step is the fallback of
the gate visited last and a choice with a known option. So the step is unanswered in every model whose
gates do not fall back on choices. Once a fallback is answered and has no unknown options, the run
halts on the step that asks for the missing name. -/
theorem run_asks_answered_iff {text : String} {config : Config} {answers : ParameterStore}
    {r : Result} (compiled : Model.ofText text = .ok m) (ran : m.run config answers = .ok r)
    (halted : r.isTerminal = false) :
    ∃ (visits : List Visited) (index : Nat) (s : Step) (used : List String) (question : Nat)
        (q : Step), r.trace = visits ++ [s.visited used] ∧
      m.steps[index]? = some s ∧ m.steps[question]? = some q ∧ q.isQuestion = true ∧
      m.step? r.questions.label = some q ∧
      (q.isAnswered r.parameters = true ↔ s.fallback? = some question ∧
        ∃ p ∈ q.choice, r.parameters.isKnown p.name = true) ∧
      ((∀ t ∈ m.steps, ∀ (fallback : Nat) (f : Step), t.fallback? = some fallback →
          m.steps[fallback]? = some f → f.choice = []) → q.isAnswered r.parameters = false) ∧
      ∀ (fallback : Nat) (f : Step), s.fallback? = some fallback → m.steps[fallback]? = some f →
        f.isAnswered r.parameters = true →
        (∀ p ∈ f.choice, r.parameters.isKnown p.name = true) →
        ∃ name, s.Misses m r.parameters name ∧ m.origin? name = some (.question question) ∧
          name ∈ q.askedNames := by
  obtain ⟨_, _, _, _, stages⟩ := ofText_ok compiled
  have wellFormed := stages.wellFormed
  obtain ⟨known, n, w, target, _, _, ends⟩ := wellFormed.run_ends ran
  cases ends with
  | finished outcome => cases halted
  | @halted index question s q v found visited asks there asksMore =>
    have answered_iff := wellFormed.visit_answered_iff found visited asks there
    refine ⟨w.trace, index, s, v.used, question, q, rfl, found, there,
      Step.isQuestion_of_hasOpen asksMore, stages.step?_id (List.mem_of_getElem? there),
      answered_iff, ?_, ?_⟩
    · intro plain
      rw [Bool.eq_false_iff]
      intro answered
      obtain ⟨fallback, p, option, _⟩ := answered_iff.mp answered
      rw [plain s (List.mem_of_getElem? found) question q fallback there] at option
      cases option
    · intro fallback f given target answered picked
      exact wellFormed.visit_past_fallback visited asks there given target answered picked

/-- What the script about a home asks for when the home is rented and not owned. -/
def wageResult : Result where
  questions := ⟨"loon", .ofList [.question "inkomen" .number []]⟩
  parameters := .ofList [.ofValue "huur" (.boolean true), .ofValue "koop" (.boolean false),
    .ofValue "gehuurd" (.boolean true)]
  trace := [⟨"woning", "question", "", ["huur", "koop"]⟩, ⟨"recht", "derivation", "", ["huur"]⟩,
    ⟨"grens", "gate", "", ["inkomen"]⟩]
  outcome := none

theorem run_asks_answered_iff_home :
    Model.ofText homeScript = .ok homeModel ∧
      homeModel.run {} (.ofList [.ofValue "huur" (.boolean true),
        .ofValue "koop" (.boolean false)]) = .ok wageResult ∧
      wageResult.isTerminal = false ∧
      ∃ q, homeModel.step? "loon" = some q ∧ q.isAnswered wageResult.parameters = false := by
  have ran : homeModel.run {} (.ofList [.ofValue "huur" (.boolean true),
      .ofValue "koop" (.boolean false)]) = .ok wageResult := by decide
  obtain ⟨_, _, s, _, question, q, _, _, there, _, label, answered_iff, _⟩ :=
    run_asks_answered_iff ofText_homeScript ran rfl
  refine ⟨ofText_homeScript, ran, rfl, q, label, ?_⟩
  rw [Bool.eq_false_iff, ne_eq, answered_iff]
  have plain : ∀ q, homeModel.step? "loon" = some q → q.choice = [] := by
    rintro q named
    cases named
    rfl
  rintro ⟨_, p, option, _⟩
  rw [plain q label] at option
  cases option

/-- Where the income is missing, the choice of a home is asked for again although it is answered. -/
theorem answered_choice_asked :
    Model.ofText homeScript = .ok homeModel ∧
      homeModel.run {} (picked "huur") = .ok rentedResult ∧ rentedResult.isTerminal = false ∧
      ∃ q, homeModel.step? rentedResult.questions.label = some q ∧
        q.isAnswered rentedResult.parameters = true :=
  ⟨ofText_homeScript, by decide, rfl, _, rfl, by decide⟩

end Model

end Questionnaire
