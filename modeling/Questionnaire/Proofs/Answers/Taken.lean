import Questionnaire.Proofs.Answers.Normalization

/-!
What is taken of each answer.

What becomes of an answer does not depend on the others: it is refused, it is left out, or one
parameter is written for it. So what a run knows at its start is what is taken of the single answers,
in their order: `normalize_ok_iff`.
-/

namespace Questionnaire.Model

/-- An answer that is not refused. -/
def Accepts (m : Model) (strict : Bool) (answer : Parameter) : Prop :=
  ∃ taken, m.acceptAnswer strict .empty answer = .ok taken

/-- The parameter that is written for an answer, if one is. -/
def taken? (m : Model) (strict : Bool) (answer : Parameter) : Option Parameter :=
  (m.acceptAnswer strict .empty answer).toOption.bind (·.toList.head?)

variable {m : Model} {strict : Bool} {known after : ParameterStore} {answer p : Parameter}
  {answers : List Parameter}

/-! ### Single answers -/

theorem acceptAnswer_cases (m : Model) (strict : Bool) (answer : Parameter) :
    (∃ e, ∀ known, m.acceptAnswer strict known answer = .error e) ∨
      (∀ known, m.acceptAnswer strict known answer = .ok known) ∨
      ∃ p, p.name = answer.name ∧
        ∀ known, m.acceptAnswer strict known answer = .ok (known.insert p) := by
  unfold acceptAnswer
  split
  · exact Or.inr (Or.inl fun _ => rfl)
  · split
    · split
      · rename_i asked _
        cases asked.accept answer with
        | error e => exact Or.inl ⟨e, fun _ => rfl⟩
        | ok v => exact Or.inr (Or.inr ⟨.ofValue answer.name v, rfl, fun _ => rfl⟩)
      · exact Or.inr (Or.inr ⟨.ofValue answer.name answer.value, rfl, fun _ => rfl⟩)
    · exact Or.inr (Or.inl fun _ => rfl)
    · split
      · exact Or.inl ⟨_, fun _ => rfl⟩
      · exact Or.inr (Or.inr ⟨answer, rfl, fun _ => rfl⟩)

theorem acceptAnswer_ok_iff : m.acceptAnswer strict known answer = .ok after ↔
    m.Accepts strict answer ∧ after = (m.taken? strict answer).elim known known.insert := by
  unfold Accepts taken?
  rcases acceptAnswer_cases m strict answer with ⟨e, refused⟩ | leftOut | ⟨p, _, written⟩
  · simp [refused]
  · simp [leftOut, Except.toOption, eq_comm]
  · simp [written, Except.toOption, Parameter.write, eq_comm]

theorem taken?_name (taken : m.taken? strict answer = some p) : p.name = answer.name := by
  unfold taken? at taken
  rcases acceptAnswer_cases m strict answer with ⟨e, refused⟩ | leftOut | ⟨q, named, written⟩
  · simp [refused, Except.toOption] at taken
  · simp [leftOut, Except.toOption] at taken
  · have same : q = p := by simpa [written, Except.toOption, Parameter.write] using taken
    rwa [← same]

theorem acceptAnswer_of_unknown (unknown : answer.value.isUnknown = true) :
    m.acceptAnswer strict known answer = .ok known := by
  simp only [acceptAnswer, unknown, if_true]

theorem taken?_of_leftOut (leftOut : ∀ known, m.acceptAnswer strict known answer = .ok known) :
    m.Accepts strict answer ∧ m.taken? strict answer = none := by
  refine ⟨⟨_, leftOut .empty⟩, ?_⟩
  simp [taken?, leftOut, Except.toOption]

/-- What is written for the answer to a question is its value, as a value of the type of the answer. -/
theorem WellFormed.taken?_asked (wellFormed : m.WellFormed) {s : Step} {q : AskedParameter}
    (step : s ∈ m.steps) (asked : q ∈ s.asked) (named : answer.name = q.name)
    (given : answer.value.isUnknown = false) (accepts : m.Accepts strict answer) :
    ∃ v, answer.value.coerce? q.valueType = some v ∧ v.isUnknown = false ∧
      m.taken? strict answer = some (.ofValue q.name v) := by
  obtain ⟨taken, accepted⟩ := accepts
  rw [wellFormed.acceptAnswer_asked step asked strict _ answer named given] at accepted
  obtain ⟨v, value, written⟩ := map_ok.mp accepted
  have coerced := accept_coerced value
  refine ⟨v, coerced, Value.coerce?_known given coerced, ?_⟩
  rw [taken?, wellFormed.acceptAnswer_asked step asked strict _ answer named given, value, named]
  rfl

/-! ### All answers -/

theorem acceptAnswers_ok_iff : m.acceptAnswers strict known answers = .ok after ↔
    (∀ answer ∈ answers, m.Accepts strict answer) ∧
      after = known.insertAll (answers.filterMap (m.taken? strict)) := by
  induction answers generalizing known with
  | nil => simp [acceptAnswers, ParameterStore.insertAll, eq_comm]
  | cons answer rest ih =>
    have first : m.acceptAnswers strict known (answer :: rest) = .ok after ↔
        ∃ next, m.acceptAnswer strict known answer = .ok next ∧
          m.acceptAnswers strict next rest = .ok after := by
      rw [acceptAnswers]
      cases m.acceptAnswer strict known answer <;> simp
    have written : known.insertAll ((answer :: rest).filterMap (m.taken? strict)) =
        ((m.taken? strict answer).elim known known.insert).insertAll
          (rest.filterMap (m.taken? strict)) := by
      cases taken : m.taken? strict answer with
      | none => rw [List.filterMap_cons_none taken, Option.elim_none]
      | some p =>
        rw [List.filterMap_cons_some taken, Option.elim_some]
        rfl
    rw [first, written, List.forall_mem_cons]
    simp only [acceptAnswer_ok_iff, ih]
    constructor
    · rintro ⟨_, ⟨here, rfl⟩, later, same⟩
      exact ⟨⟨here, later⟩, same⟩
    · rintro ⟨⟨here, later⟩, same⟩
      exact ⟨_, ⟨here, rfl⟩, later, same⟩

/-- What is known at the start of a run is what is taken of its answers, none of which is refused. -/
theorem normalize_ok_iff {answers : ParameterStore} : m.normalize strict answers = .ok known ↔
    (∀ answer ∈ answers.toList, m.Accepts strict answer) ∧
      known.toList = answers.toList.filterMap (m.taken? strict) := by
  have listed : (ParameterStore.ofList (answers.toList.filterMap (m.taken? strict))).toList =
      answers.toList.filterMap (m.taken? strict) :=
    ParameterStore.toList_ofList_filterMap fun _ _ => taken?_name
  rw [normalize, acceptAnswers_ok_iff]
  refine and_congr_right fun _ => ?_
  constructor
  · intro same
    rw [same]
    exact listed
  · intro same
    exact ParameterStore.eq_of_toList (same.trans listed.symm)

theorem get?_normalize {answers : ParameterStore} (normal : m.normalize strict answers = .ok known)
    (name : String) : known.get? name = (answers.get? name).bind (m.taken? strict) :=
  ParameterStore.get?_of_filterMap (fun _ _ => taken?_name) (normalize_ok_iff.mp normal).2 name

end Questionnaire.Model
