import Questionnaire.Proofs.Model.WellFormed
import Questionnaire.Proofs.Value.Reading
import Questionnaire.Run.Answers

/-!
What a run takes of the answers it is given.

Nothing is ever known at the start of a run under the name of a constant or of a derivation:
`normalize_answerable`.
-/

namespace Questionnaire.Model

variable {m : Model} {strict : Bool} {known after : ParameterStore} {answer : Parameter}

/-- A name that can be answered: a step asks for it, or the model does not declare it. -/
def Answerable (m : Model) (name : String) : Prop :=
  ∀ origin, m.origin? name = some origin → ∃ index, origin = .question index

/-! ### Accepted answers -/

theorem accept_coerced {p : AskedParameter} {v : Value} (h : p.accept answer = .ok v) :
    answer.value.coerce? p.valueType = some v := by
  unfold AskedParameter.accept at h
  split at h
  · cases h
  · rename_i coerced
    split at h
    · cases h
      exact coerced
    · cases h

/-- What an answer does to the store: nothing, or it is written as it is or as another value under its
name. -/
theorem acceptAnswer_ok (h : m.acceptAnswer strict known answer = .ok after) :
    after = known ∨ m.Answerable answer.name ∧
      ∃ p, after = known.insert p ∧ (p = answer ∨ ∃ v, p = .ofValue answer.name v) ∧
        p.value.isUnknown = false := by
  unfold acceptAnswer at h
  split at h
  · exact Or.inl (Except.ok.inj h).symm
  · rename_i given
    have given := Bool.eq_false_iff.mpr given
    cases origin : m.origin? answer.name with
    | none =>
      have free : m.Answerable answer.name := by simp [Answerable, origin]
      simp only [origin] at h
      split at h
      · cases h
      · exact Or.inr ⟨free, answer, (Except.ok.inj h).symm, Or.inl rfl, given⟩
    | some o =>
      cases o with
      | question index =>
        have free : m.Answerable answer.name := by simp [Answerable, origin]
        simp only [origin] at h
        split at h
        · obtain ⟨v, accepted, rfl⟩ := map_ok.mp h
          exact Or.inr ⟨free, _, rfl, Or.inr ⟨v, rfl⟩,
            Value.coerce?_known given (accept_coerced accepted)⟩
        · exact Or.inr ⟨free, _, (Except.ok.inj h).symm, Or.inr ⟨_, rfl⟩, given⟩
      | _ =>
        simp only [origin] at h
        exact Or.inl (Except.ok.inj h).symm

/-- What holds of the empty store and is kept by each of the answers holds of what is known at the
start. -/
theorem normalize_induction {P : ParameterStore → Prop} {answers : ParameterStore} (empty : P .empty)
    (step : ∀ known answer after, answer ∈ answers.toList → P known →
      m.acceptAnswer strict known answer = .ok after → P after)
    (h : m.normalize strict answers = .ok known) : P known := by
  have fold (ps : List Parameter) : ps ⊆ answers.toList → ∀ before after, P before →
      m.acceptAnswers strict before ps = .ok after → P after := by
    induction ps with
    | nil =>
      rintro _ before _ holds ⟨⟩
      exact holds
    | cons answer rest ih =>
      intro listed before after holds h
      rw [List.cons_subset] at listed
      unfold acceptAnswers at h
      split at h
      · cases h
      · rename_i next accepted
        exact ih listed.2 next after (step before answer next listed.1 holds accepted) h
  exact fold answers.toList (List.Subset.refl _) .empty known empty h

theorem normalize_answerable {answers : ParameterStore}
    (h : m.normalize strict answers = .ok known) : ∀ name ∈ known.names, m.Answerable name := by
  refine normalize_induction (P := fun known => ∀ name ∈ known.names, m.Answerable name)
    (by simp [ParameterStore.names]) ?_ h
  intro known answer after _ before accepted
  rcases acceptAnswer_ok accepted with rfl | ⟨free, p, rfl, written, _⟩
  · exact before
  · intro name member
    rcases ParameterStore.names_insert.mp member with rfl | old
    · rcases written with rfl | ⟨v, rfl⟩
      · exact free
      · exact free
    · exact before name old

/-- All that is known at the start has a value. -/
theorem normalize_known {answers : ParameterStore} (h : m.normalize strict answers = .ok known) :
    ∀ p ∈ known.toList, p.value.isUnknown = false := by
  refine normalize_induction (P := fun known => ∀ p ∈ known.toList, p.value.isUnknown = false)
    (by simp) ?_ h
  intro known answer after _ before accepted
  rcases acceptAnswer_ok accepted with rfl | ⟨_, p, rfl, _, given⟩
  · exact before
  · intro q member
    rcases ParameterStore.mem_insert member with rfl | old
    · exact given
    · exact before q old

/-! ### Refused answers -/

theorem acceptAnswer_error {e : RunError} (h : m.acceptAnswer strict known answer = .error e) :
    ∃ name fault, e = .invalidAnswer name fault := by
  have refused {p : AskedParameter} (h : p.accept answer = .error e) :
      ∃ name fault, e = .invalidAnswer name fault := by
    unfold AskedParameter.accept at h
    split at h
    · exact ⟨_, _, (Except.error.inj h).symm⟩
    · split at h
      · cases h
      · exact ⟨_, _, (Except.error.inj h).symm⟩
  unfold acceptAnswer at h
  split at h
  · cases h
  · split at h
    · split at h
      · exact refused (map_error.mp h)
      · cases h
    · cases h
    · split at h
      · exact ⟨_, _, (Except.error.inj h).symm⟩
      · cases h

theorem acceptAnswers_error {answers : List Parameter} {e : RunError}
    (h : m.acceptAnswers strict known answers = .error e) :
    ∃ name fault, e = .invalidAnswer name fault := by
  induction answers generalizing known with
  | nil => cases h
  | cons answer rest ih =>
    unfold acceptAnswers at h
    split at h
    · rename_i refused
      cases h
      exact acceptAnswer_error refused
    · exact ih h

/-! ### Answers to questions -/

/-- The answer to a question that a step asks is accepted or refused by that question. -/
theorem WellFormed.acceptAnswer_asked (wellFormed : m.WellFormed) {s : Step} {p : AskedParameter}
    (step : s ∈ m.steps) (member : p ∈ s.asked) (strict : Bool) (known : ParameterStore)
    (answer : Parameter) (named : answer.name = p.name) (given : answer.value.isUnknown = false) :
    m.acceptAnswer strict known answer =
      (p.accept answer).map fun v => known.insert (.ofValue answer.name v) := by
  obtain ⟨index, found⟩ := List.mem_iff_getElem?.mp step
  simp only [acceptAnswer, given, named, wellFormed.origin?_asked found member,
    wellFormed.asked?_eq_some found member, Bool.false_eq_true, if_false]

end Questionnaire.Model
