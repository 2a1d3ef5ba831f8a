import Questionnaire.Proofs.Run.Scope

/-!
What a visit to a step says about the step.

One lemma for each kind of step lists all that a visit to it can do. A visit fails only because of an
evaluation or a name that cannot be asked for.
-/

namespace Questionnaire

def Visit.after (v : Visit) (known : ParameterStore) : ParameterStore :=
  match v.derived with
  | some p => known.insert p
  | none => known

/-- The step that a gate would rather halt on than on the one that asks for a missing name. -/
def Step.fallback? (s : Step) : Option Nat :=
  match s.kind with
  | .gate _ _ _ fallback => fallback
  | _ => none

/-- A name without a value stops the evaluation of a step. -/
def Step.Misses (m : Model) (known : ParameterStore) (s : Step) (name : String) : Prop :=
  match s.kind with
  | .question .. => False
  | .gate condition .. => (condition.root.evaluate (m.scope known)).1 = .error (.missing name)
  | .derivation _ _ cases => (evaluateCases (m.scope known) cases).1 = .error (.missing name)

namespace Model

variable {m : Model} {known : ParameterStore} {s : Step} {index question : Nat} {v : Visit}
  {flow : Flow} {fallback : Option Nat} {target : Target}

/-! ### Handing on -/

/-- The step to halt on is the fallback as long as it has something to ask, else the one that asks for
the name. -/
theorem questionFor_ok {name : String}
    (h : m.questionFor known s fallback name = .ok question) :
    (fallback = some question ∧ ∃ q, m.steps[question]? = some q ∧ q.hasOpen known = true) ∨
      (∀ f, fallback.bind (m.steps[·]?) = some f → f.hasOpen known = false) ∧
        m.origin? name = some (.question question) := by
  unfold questionFor at h
  split at h
  · rename_i found
    cases h
    obtain ⟨given, open_⟩ := Option.filter_eq_some_iff.mp found
    obtain ⟨q, here, asks⟩ := (Option.any_eq_true _ _).mp open_
    exact Or.inl ⟨given, q, here, asks⟩
  · rename_i closed
    split at h
    · cases h
      refine Or.inr ⟨?_, ‹_›⟩
      intro f there
      obtain ⟨index, given, here⟩ := Option.bind_eq_some_iff.mp there
      rw [given, Option.filter_eq_none_iff] at closed
      simpa [here] using closed index rfl
    · cases h

theorem questionFor_error {name : String} {e : RunError}
    (h : m.questionFor known s fallback name = .error e) : e = .missingParameter name s.id := by
  unfold questionFor at h
  split at h
  · cases h
  · split at h
    · cases h
    · cases h
      rfl

theorem flowOfError_ok {e : EvalError} (h : m.flowOfError known s fallback e = .ok flow) :
    ∃ name question, e = .missing name ∧ m.questionFor known s fallback name = .ok question ∧
      flow = .ask question := by
  cases e with
  | missing name =>
    obtain ⟨question, found, rfl⟩ := map_ok.mp h
    exact ⟨name, question, rfl, found, rfl⟩
  | _ => cases h

theorem flowOfGate_ok {onTrue onFalse : Target} {value : Except EvalError Value}
    (h : m.flowOfGate known s onTrue onFalse fallback value = .ok flow) :
    (∃ b, value = .ok (.boolean b) ∧ flow = .go (if b then onTrue else onFalse)) ∨
      ∃ name question, value = .error (.missing name) ∧
        m.questionFor known s fallback name = .ok question ∧ flow = .ask question := by
  unfold flowOfGate at h
  split at h
  · cases h
    exact Or.inl ⟨true, rfl, rfl⟩
  · cases h
    exact Or.inl ⟨false, rfl, rfl⟩
  · cases h
  · obtain ⟨name, question, rfl, found, rfl⟩ := flowOfError_ok h
    exact Or.inr ⟨name, question, rfl, found, rfl⟩

theorem derive_ok {name : String} {type : AnswerType} {value : Option Value}
    {derived : Option Parameter} (h : derive known s name type value = .ok derived) :
    (value = none ∧ derived = none) ∨
      ∃ a w, value = some a ∧ a.coerce? type = some w ∧
        ((∃ p, known.get? name = some p ∧ p.value.same w = true ∧ derived = none) ∨
          ((∀ p, known.get? name = some p → p.value.same w = false) ∧
            derived = some (.ofValue name w))) := by
  cases value with
  | none =>
    cases h
    exact Or.inl ⟨rfl, rfl⟩
  | some a =>
    unfold derive at h
    cases coerced : a.coerce? type with
    | none => simp [coerced] at h
    | some w =>
      refine Or.inr ⟨a, w, rfl, coerced, ?_⟩
      simp only [coerced] at h
      split at h
      · rename_i held
        cases h
        obtain ⟨p, found, same⟩ := (Option.any_eq_true _ _).mp held
        exact Or.inl ⟨p, found, same, rfl⟩
      · rename_i changed
        cases h
        refine Or.inr ⟨?_, rfl⟩
        intro p found
        simpa [found] using changed

theorem derive_error {name : String} {type : AnswerType} {value : Option Value} {e : RunError}
    (h : derive known s name type value = .error e) :
    ∃ v, value = some v ∧ v.coerce? type = none := by
  unfold derive at h
  split at h
  · cases h
  · rename_i v
    split at h
    · exact ⟨v, rfl, ‹_›⟩
    · split at h <;> cases h

/-! ### Visits by kind -/

theorem visit_question {parameters : List AskedParameter} {mode : AnswerMode}
    (kind : s.kind = .question parameters mode) :
    m.visit known index s = .ok ⟨distinctNames (parameters.map (·.name)), none,
      if s.isAnswered known then .go s.next else .ask index⟩ := by
  simp only [visit, kind]

theorem visit_gate {condition : Formula} {onTrue onFalse : Target}
    (kind : s.kind = .gate condition onTrue onFalse fallback)
    (h : m.visit known index s = .ok v) :
    v.derived = none ∧ v.used = distinctNames (condition.root.evaluate (m.scope known)).2 ∧
      m.flowOfGate known s onTrue onFalse fallback (condition.root.evaluate (m.scope known)).1 =
        .ok v.flow := by
  simp only [visit, kind] at h
  obtain ⟨flow, decided, rfl⟩ := map_ok.mp h
  exact ⟨rfl, rfl, decided⟩

theorem visit_derivation {name : String} {type : AnswerType} {cases : List Case}
    (kind : s.kind = .derivation name type cases) (h : m.visit known index s = .ok v) :
    v.used = distinctNames (evaluateCases (m.scope known) cases).2 ∧
      ((∃ value, (evaluateCases (m.scope known) cases).1 = .ok value ∧
          derive known s name type value = .ok v.derived ∧ v.flow = .go s.next) ∨
        ∃ e, (evaluateCases (m.scope known) cases).1 = .error e ∧ v.derived = none ∧
          m.flowOfError known s none e = .ok v.flow) := by
  simp only [visit, kind] at h
  split at h
  · rename_i value evaluated
    obtain ⟨derived, decided, rfl⟩ := map_ok.mp h
    exact ⟨rfl, Or.inl ⟨value, evaluated, decided, rfl⟩⟩
  · rename_i e failed
    obtain ⟨flow, decided, rfl⟩ := map_ok.mp h
    exact ⟨rfl, Or.inr ⟨e, failed, rfl, decided⟩⟩

/-! ### Visits that go on, halt or fail -/

theorem visit_inRange {n : Nat} (sound : s.Sound n) (h : m.visit known index s = .ok v)
    (goes : v.flow = .go target) : target.InRange n := by
  obtain ⟨next, sound⟩ := sound
  cases kind : s.kind with
  | question parameters mode =>
    rw [visit_question kind] at h
    cases h
    simp only at goes
    split at goes
    · cases goes
      exact next
    · cases goes
  | derivation name type cases =>
    obtain ⟨_, ⟨_, _, _, on⟩ | ⟨_, _, _, failed⟩⟩ := visit_derivation kind h
    · cases on.symm.trans goes
      exact next
    · obtain ⟨_, _, _, _, asks⟩ := flowOfError_ok failed
      cases asks.symm.trans goes
  | gate condition onTrue onFalse fallback =>
    rw [kind] at sound
    obtain ⟨_, _, decided⟩ := visit_gate kind h
    rcases flowOfGate_ok decided with ⟨b, _, on⟩ | ⟨_, _, _, _, asks⟩
    · cases on.symm.trans goes
      cases b
      · exact sound.2.1
      · exact sound.1
    · cases asks.symm.trans goes

/-- A visit that halts changes nothing, and it asks because the step is an unanswered question or
misses a name. -/
theorem visit_ask (h : m.visit known index s = .ok v) (asks : v.flow = .ask question) :
    v.derived = none ∧
      ((question = index ∧ s.isQuestion = true ∧ s.isAnswered known = false) ∨
        ∃ name, s.Misses m known name ∧
          m.questionFor known s s.fallback? name = .ok question) := by
  unfold Step.Misses Step.fallback?
  cases kind : s.kind with
  | question parameters mode =>
    rw [visit_question kind] at h
    cases h
    simp only at asks
    split at asks
    · cases asks
    · rename_i unanswered
      cases asks
      exact ⟨rfl, Or.inl ⟨rfl, by simp [Step.isQuestion, kind], Bool.eq_false_iff.mpr unanswered⟩⟩
  | derivation name type cases =>
    obtain ⟨_, ⟨_, _, _, on⟩ | ⟨e, missed, same, failed⟩⟩ := visit_derivation kind h
    · cases on.symm.trans asks
    · obtain ⟨name, _, rfl, found, asks'⟩ := flowOfError_ok failed
      cases asks'.symm.trans asks
      exact ⟨same, Or.inr ⟨name, missed, found⟩⟩
  | gate condition onTrue onFalse fallback =>
    obtain ⟨same, _, decided⟩ := visit_gate kind h
    rcases flowOfGate_ok decided with ⟨_, _, on⟩ | ⟨name, _, missed, found, asks'⟩
    · cases on.symm.trans asks
    · cases asks'.symm.trans asks
      exact ⟨same, Or.inr ⟨name, missed, found⟩⟩

theorem scope_of_misses {name : String} (misses : s.Misses m known name) :
    m.scope known name = none := by
  unfold Step.Misses at misses
  cases kind : s.kind with
  | question => simp [kind] at misses
  | derivation =>
    rw [kind] at misses
    exact (evaluateCases_missing misses).1
  | gate =>
    rw [kind] at misses
    exact (Expr.missing_last misses).1

theorem flowOfError_error {reason : EvalError} {e : RunError}
    (h : m.flowOfError known s fallback reason = .error e) :
    (∃ name, e = .missingParameter name s.id) ∨ ∃ fault, e = .evaluation s.id fault := by
  cases reason with
  | missing name => exact Or.inl ⟨name, questionFor_error (map_error.mp h)⟩
  | _ =>
    cases h
    exact Or.inr ⟨_, rfl⟩

/-- A visit fails for a name that no step asks for, or because of an evaluation. -/
theorem visit_error {e : RunError} (h : m.visit known index s = .error e) :
    (∃ name, e = .missingParameter name s.id) ∨ ∃ fault, e = .evaluation s.id fault := by
  cases kind : s.kind with
  | question parameters mode =>
    rw [visit_question kind] at h
    cases h
  | derivation name type cases =>
    simp only [visit, kind] at h
    split at h
    · rename_i value _
      have refused := map_error.mp h
      unfold derive at refused
      split at refused
      · cases refused
      · split at refused
        · cases refused
          exact Or.inr ⟨_, rfl⟩
        · split at refused <;> cases refused
    · exact flowOfError_error (map_error.mp h)
  | gate condition onTrue onFalse fallback =>
    simp only [visit, kind] at h
    have refused := map_error.mp h
    unfold flowOfGate at refused
    split at refused
    · cases refused
    · cases refused
    · cases refused
      exact Or.inr ⟨_, rfl⟩
    · exact flowOfError_error refused

end Model

end Questionnaire
