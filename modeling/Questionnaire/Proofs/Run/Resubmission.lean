import Questionnaire.Proofs.Run.Monotone

/-!
Results as answers.

What a run knows at its start has been taken as an answer and is taken again just as it is, while what
it derives is no answer and is left out. A result given back as answers is therefore normalized to what
its run knew at the start, and the run is repeated: `run_resubmitted`.
-/

namespace Questionnaire

theorem Value.coerce?_again {v w : Value} {t : AnswerType} (h : v.coerce? t = some w) :
    w.coerce? t = some w := by
  by_cases any : t = .unknown
  · unfold coerce?
    rw [if_pos (Or.inr any)]
  · rw [← type_of_coerce? any h]
    exact coerce?_self w

theorem AskedParameter.accept_again {p : AskedParameter} {answer : Parameter} {v : Value}
    (h : p.accept answer = .ok v) (name : String) : p.accept (.ofValue name v) = .ok v := by
  have again := Value.coerce?_again (Model.accept_coerced h)
  unfold accept at h ⊢
  simp only [Parameter.ofValue, again]
  split at h
  · cases h
  · split at h
    · cases h
      exact if_pos ‹_›
    · cases h

namespace Model

/-- An answer that is taken just as it is. -/
def Takes (m : Model) (strict : Bool) (p : Parameter) : Prop :=
  ∀ known, m.acceptAnswer strict known p = .ok (known.insert p)

/-- An answer that is left out. -/
def LeavesOut (m : Model) (strict : Bool) (p : Parameter) : Prop :=
  ∀ known, m.acceptAnswer strict known p = .ok known

variable {m : Model} {strict : Bool} {known after : ParameterStore} {p answer : Parameter}
  {ps : List Parameter}

/-! ### Lists of answers -/

theorem acceptAnswers_takes (taken : ∀ p ∈ ps, m.Takes strict p) (rest : List Parameter) :
    m.acceptAnswers strict known (ps ++ rest) =
      m.acceptAnswers strict (known.insertAll ps) rest := by
  induction ps generalizing known with
  | nil => rfl
  | cons p ps ih =>
    rw [List.forall_mem_cons] at taken
    rw [List.cons_append, acceptAnswers, taken.1 known]
    exact ih taken.2

theorem acceptAnswers_leavesOut (leftOut : ∀ p ∈ ps, m.LeavesOut strict p) :
    m.acceptAnswers strict known ps = .ok known := by
  induction ps with
  | nil => rfl
  | cons p ps ih =>
    rw [List.forall_mem_cons] at leftOut
    rw [acceptAnswers, leftOut.1 known]
    exact ih leftOut.2

/-! ### Single answers -/

/-- What an answer writes is taken as it is if it comes back as an answer. -/
theorem WellFormed.takes_of_acceptAnswer (wellFormed : m.WellFormed)
    (h : m.acceptAnswer strict known answer = .ok after) :
    after = known ∨ ∃ p, after = known.insert p ∧ m.Takes strict p := by
  cases given : answer.value.isUnknown with
  | true =>
    simp only [acceptAnswer, given, if_true] at h
    exact Or.inl (Except.ok.inj h).symm
  | false =>
    cases origin : m.origin? answer.name with
    | none =>
      have other (known : ParameterStore) : m.acceptAnswer strict known answer =
          if strict then .error (.invalidAnswer answer.name .undeclared)
          else .ok (known.insert answer) := by
        simp only [acceptAnswer, given, origin, Bool.false_eq_true, if_false]
      rw [other] at h
      split at h
      · cases h
      · rename_i lenient
        exact Or.inr ⟨answer, (Except.ok.inj h).symm, fun known => by rw [other, if_neg lenient]⟩
    | some o =>
      cases o with
      | question index =>
        obtain ⟨s, found, asked⟩ := (wellFormed.question answer.name index).mp origin
        obtain ⟨p, member, named⟩ := List.mem_map.mp asked
        have step := List.mem_of_getElem? found
        rw [wellFormed.acceptAnswer_asked step member strict known answer named.symm given] at h
        obtain ⟨v, accepted, rfl⟩ := map_ok.mp h
        refine Or.inr ⟨_, rfl, fun known => ?_⟩
        have kept := Value.coerce?_known given (accept_coerced accepted)
        rw [wellFormed.acceptAnswer_asked step member strict known (.ofValue answer.name v)
          named.symm kept, AskedParameter.accept_again accepted]
        rfl
      | _ =>
        simp only [acceptAnswer, given, origin, Bool.false_eq_true, if_false] at h
        exact Or.inl (Except.ok.inj h).symm

theorem WellFormed.leavesOut_derived (wellFormed : m.WellFormed) (derived : p.name ∈ m.derivedNames) :
    m.LeavesOut strict p := by
  obtain ⟨index, origin⟩ := wellFormed.mem_derivedNames.mp derived
  intro known
  unfold acceptAnswer
  split
  · rfl
  · simp only [origin]

/-! ### Normalization -/

theorem WellFormed.takes_of_normalize (wellFormed : m.WellFormed) {answers : ParameterStore}
    (normal : m.normalize strict answers = .ok known) : ∀ p ∈ known.toList, m.Takes strict p := by
  refine normalize_induction (P := fun known => ∀ p ∈ known.toList, m.Takes strict p) (by simp) ?_
    normal
  intro known answer after _ before accepted
  rcases wellFormed.takes_of_acceptAnswer accepted with rfl | ⟨p, rfl, taken⟩
  · exact before
  · intro q member
    rcases ParameterStore.mem_insert member with rfl | old
    · exact taken
    · exact before q old

/-- What a run has appended to what it knew at the start is taken off again. -/
theorem WellFormed.normalize_appended (wellFormed : m.WellFormed) {answers : ParameterStore}
    {writes : List Parameter} (normal : m.normalize strict answers = .ok known)
    (appends : m.Appends known after writes) : m.normalize strict after = .ok known := by
  have listed : (ParameterStore.empty.insertAll known.toList).toList = known.toList :=
    ParameterStore.toList_ofList known.distinct
  calc m.normalize strict after
    _ = m.acceptAnswers strict .empty (known.toList ++ writes) := by
      rw [normalize, appends.appended]
    _ = m.acceptAnswers strict (ParameterStore.empty.insertAll known.toList) writes :=
      acceptAnswers_takes (wellFormed.takes_of_normalize normal) writes
    _ = .ok (ParameterStore.empty.insertAll known.toList) :=
      acceptAnswers_leavesOut fun p member => wellFormed.leavesOut_derived (appends.derived p member)
    _ = .ok known := by rw [ParameterStore.eq_of_toList listed]

/-- A run on its own result has that result again. -/
theorem run_resubmitted {text : String} {config : Config} {answers : ParameterStore} {r : Result}
    (compiled : Model.ofText text = .ok m) (ran : m.run config answers = .ok r) :
    m.run config r.parameters = .ok r := by
  have wellFormed := wellFormed_of_text compiled
  obtain ⟨known, n, w, target, normal, rounds, ends⟩ := wellFormed.run_ends ran
  obtain ⟨writes, appends, _⟩ :=
    rounds.writes_once wellFormed (wellFormed.start_consistent normal)
  have again := wellFormed.normalize_appended normal appends
  rw [← ends.parameters] at again
  rw [run_of_normalize again, ← run_of_normalize normal]
  exact ran

theorem run_resubmitted_home :
    Model.ofText homeScript = .ok homeModel ∧
      homeModel.run { strictAnswers := true } (picked "huur") = .ok rentedResult ∧
      rentedResult.parameters ≠ picked "huur" ∧
      homeModel.run { strictAnswers := true } rentedResult.parameters = .ok rentedResult := by
  have ran : homeModel.run { strictAnswers := true } (picked "huur") = .ok rentedResult := by
    decide
  exact ⟨ofText_homeScript, ran, by decide, run_resubmitted ofText_homeScript ran⟩

end Model

end Questionnaire
