import Questionnaire.Proofs.Answers.Normalization
import Questionnaire.Proofs.Model.WellTyped
import Questionnaire.Proofs.Run.Ends

/-!
Runs of well-typed models do not fail because of a type.

The invariant is `Typed`: every declared name that is known holds a value of its type. Answers are taken
as values of the types that are asked for, derivations write values of their types, and the options
that are false because another one is known are truth values. So all that a step evaluates fits the
types it was checked with, and only arithmetic can fail: `type_safe`.
-/

namespace Questionnaire

/-! ### Evaluation of what was checked -/

section

variable {scope : Scope} {env : TypeEnv} {f : Formula} {type : AnswerType} {cases : List Case}

theorem Formula.IsCondition.gives (fits : scope.Fits env) (condition : f.IsCondition env) :
    Gives (·.type = .boolean) (f.root.evaluate scope).1 := by
  obtain ⟨t, checked, boolean⟩ := bind_ok.mp condition.checked
  obtain ⟨known, gives⟩ := Expr.evaluate_gives fits condition.literals checked
  split at boolean
  · rename_i isBoolean
    rwa [(AnswerType.isBoolean_iff.mp isBoolean).resolve_right known] at gives
  · cases boolean

/-- The value of cases can be written as one of the type of their derivation. -/
theorem evaluateCases_gives (fits : scope.Fits env) (typed : ∀ c ∈ cases, c.WellTyped env type) :
    Gives (fun value => ∀ v ∈ value, (v.coerce? type).isSome) (evaluateCases scope cases).1 := by
  induction cases with
  | nil => simp [evaluateCases]
  | cons c rest ih =>
    rw [List.forall_mem_cons] at typed
    obtain ⟨here, later⟩ := typed
    obtain ⟨t, checked, agrees⟩ := here.formula
    obtain ⟨known, gives⟩ := Expr.evaluate_gives fits here.literals checked
    have value : Gives (fun value => ∀ v ∈ value, (v.coerce? type).isSome)
        ((c.formula.root.evaluate scope).1.map some) := by
      refine gives.map ?_
      rintro v rfl _ ⟨rfl⟩
      exact Value.coerce?_isSome known (agrees.resolve_left known)
    cases guarded : c.guard with
    | none =>
      simp only [evaluateCases, guarded]
      exact value
    | some guard =>
      have condition := (here.guard guard guarded).gives fits
      cases outcome : (guard.root.evaluate scope).1 with
      | error e =>
        simp only [evaluateCases, guarded, outcome]
        exact condition.of_error outcome
      | ok a =>
        obtain ⟨b, rfl⟩ := Value.type_eq_boolean.mp (condition.of_ok outcome)
        cases b with
        | true =>
          simp only [evaluateCases, guarded, outcome]
          exact value
        | false =>
          simp only [evaluateCases, guarded, outcome]
          exact ih later

end

/-- An error that is not about a type: where an evaluation fails, its arithmetic does. -/
def RunError.IsUntyped (e : RunError) : Prop :=
  ∀ step fault, e = .evaluation step fault → ∃ reason, fault = .expression (.arithmetic reason)

namespace Model

variable {m : Model} {known after : ParameterStore} {s : Step} {index n : Nat} {v : Visit}
  {w w' : Walk} {target target' : Target} {strict : Bool} {answer p : Parameter}

/-- All declared types of a model are concrete. -/
def Concrete (m : Model) : Prop := ∀ d ∈ m.declarations, d.type ≠ .unknown

/-- Every declared name that is known holds a value of its type. -/
def Typed (m : Model) (known : ParameterStore) : Prop :=
  ∀ name t, m.types.get? name = some t → ∀ p, known.get? name = some p → p.value.type = t

theorem Concrete.type_ne_unknown (concrete : m.Concrete) {name : String} {t : AnswerType}
    (declared : m.types.get? name = some t) : t ≠ .unknown := by
  rw [types, TypeTable.get?_ofDeclarations] at declared
  obtain ⟨d, found, rfl⟩ := Option.map_eq_some_iff.mp declared
  exact concrete d (List.mem_of_find?_eq_some found)

theorem types_of_origin_none {name : String} (undeclared : m.origin? name = none) :
    m.types.get? name = none := by
  rw [types, TypeTable.get?_ofDeclarations]
  simpa [origin?, declaration?] using undeclared

theorem Typed.insert (typed : m.Typed known)
    (fits : ∀ t, m.types.get? p.name = some t → p.value.type = t) : m.Typed (known.insert p) := by
  intro name t declared q found
  rw [ParameterStore.get?_insert] at found
  split at found
  · rename_i same
    cases found
    exact fits t (same ▸ declared)
  · exact typed name t declared q found

/-! ### Scopes -/

theorem Typed.fits (wellFormed : m.WellFormed) (wellTyped : m.WellTyped) (concrete : m.Concrete)
    (typed : m.Typed known) : (m.scope known).Fits m.types.get? := by
  intro name t declared
  refine ⟨concrete.type_ne_unknown declared, ?_⟩
  intro v found
  rcases scope_eq_some.mp found with ⟨c, constant, rfl⟩ | ⟨_, ⟨here, rfl⟩ | ⟨_, closed, rfl⟩⟩
  · obtain ⟨member, rfl⟩ := ParameterStore.get?_eq_some.mp constant
    exact Option.some.inj ((wellTyped.constants c member).symm.trans declared)
  · have present := ParameterStore.contains_iff.mpr (ParameterStore.names_of_isKnown here)
    obtain ⟨p, found⟩ := Option.isSome_iff_exists.mp present
    simpa [ParameterStore.value, found] using typed name t declared p found
  · -- The other options of a choice are false, so the choice is asked for truth values.
    obtain ⟨s, step, named, _⟩ := wellFormed.isClosedOption_iff.mp closed
    obtain ⟨p, member, rfl⟩ := List.mem_map.mp named
    have fits := wellTyped.steps s step
    unfold Step.WellTyped at fits
    rw [Step.kind_of_choice member] at fits
    obtain ⟨type, boolean⟩ := fits p member
    rw [declared, boolean rfl] at type
    exact (Option.some.inj type).symm

/-! ### Answers -/

theorem WellTyped.types_asked (wellTyped : m.WellTyped) (step : s ∈ m.steps) {p : AskedParameter}
    (member : p ∈ s.asked) : m.types.get? p.name = some p.valueType := by
  have fits := wellTyped.steps s step
  unfold Step.WellTyped at fits
  unfold Step.asked at member
  cases kind : s.kind with
  | question parameters mode =>
    rw [kind] at fits member
    exact (fits p member).1
  | _ => simp [kind] at member

theorem Typed.acceptAnswer (wellFormed : m.WellFormed) (wellTyped : m.WellTyped)
    (concrete : m.Concrete) (typed : m.Typed known)
    (h : m.acceptAnswer strict known answer = .ok after) : m.Typed after := by
  cases given : answer.value.isUnknown with
  | true =>
    simp only [Model.acceptAnswer, given, if_true] at h
    cases h
    exact typed
  | false =>
    cases origin : m.origin? answer.name with
    | none =>
      simp only [Model.acceptAnswer, given, origin, Bool.false_eq_true, if_false] at h
      split at h
      · cases h
      · cases h
        exact typed.insert (by simp [types_of_origin_none origin])
    | some o =>
      cases o with
      | question index =>
        obtain ⟨s, found, asked⟩ := (wellFormed.question answer.name index).mp origin
        obtain ⟨p, member, named⟩ := List.mem_map.mp asked
        have step := List.mem_of_getElem? found
        have declared := wellTyped.types_asked step member
        rw [wellFormed.acceptAnswer_asked step member strict known answer named.symm given] at h
        obtain ⟨a, accepted, rfl⟩ := map_ok.mp h
        have type := Value.type_of_coerce? (concrete.type_ne_unknown declared)
          (accept_coerced accepted)
        refine typed.insert fun t expected => ?_
        rw [named] at declared
        exact type.trans (Option.some.inj (declared.symm.trans expected))
      | _ =>
        simp only [Model.acceptAnswer, given, origin, Bool.false_eq_true, if_false] at h
        cases h
        exact typed

theorem typed_of_normalize (wellFormed : m.WellFormed) (wellTyped : m.WellTyped)
    (concrete : m.Concrete) {answers : ParameterStore}
    (normal : m.normalize strict answers = .ok known) : m.Typed known := by
  refine normalize_induction ?_ ?_ normal
  · intro name t declared p found
    cases found
  · intro known answer after _ typed accepted
    exact typed.acceptAnswer wellFormed wellTyped concrete accepted

/-! ### Visits -/

theorem flowOfError_isUntyped {α : Type} {P : α → Prop} {fallback : Option Nat} {reason : EvalError}
    {e : RunError} (gives : Gives P (.error reason))
    (h : m.flowOfError known s fallback reason = .error e) : e.IsUntyped := by
  cases reason with
  | type fault => exact gives.elim
  | arithmetic fault =>
    cases h
    rintro step _ ⟨⟩
    exact ⟨fault, rfl⟩
  | missing name =>
    cases questionFor_error (map_error.mp h)
    rintro _ _ ⟨⟩

/-- A visit that fails does so for another reason than a type. -/
theorem Typed.visit_error (wellFormed : m.WellFormed) (wellTyped : m.WellTyped)
    (concrete : m.Concrete) (typed : m.Typed known) (found : m.steps[index]? = some s)
    {e : RunError} (h : m.visit known index s = .error e) : e.IsUntyped := by
  have scope := typed.fits wellFormed wellTyped concrete
  have fits := wellTyped.steps s (List.mem_of_getElem? found)
  unfold Step.WellTyped at fits
  cases kind : s.kind with
  | question parameters mode =>
    rw [visit_question kind] at h
    cases h
  | gate condition onTrue onFalse fallback =>
    rw [kind] at fits
    have gives := fits.gives scope
    simp only [visit, kind] at h
    have refused := map_error.mp h
    cases outcome : (condition.root.evaluate (m.scope known)).1 with
    | ok a =>
      obtain ⟨b, rfl⟩ := Value.type_eq_boolean.mp (gives.of_ok outcome)
      rw [outcome] at refused
      cases b <;> cases refused
    | error reason =>
      rw [outcome] at refused gives
      exact flowOfError_isUntyped gives refused
  | derivation name type cases =>
    rw [kind] at fits
    have gives := evaluateCases_gives scope fits.2
    simp only [visit, kind] at h
    split at h
    · rename_i value evaluated
      rw [evaluated] at gives
      obtain ⟨v, rfl, refused⟩ := derive_error (map_error.mp h)
      simpa [refused] using gives v rfl
    · rename_i reason evaluated
      rw [evaluated] at gives
      exact flowOfError_isUntyped gives (map_error.mp h)

/-- What a derivation writes is of its type. -/
theorem Typed.visit (wellTyped : m.WellTyped) (concrete : m.Concrete) (typed : m.Typed known)
    (found : m.steps[index]? = some s) (visited : m.visit known index s = .ok v) :
    m.Typed (v.after known) := by
  have same (nothing : v.derived = none) : m.Typed (v.after known) := by
    simpa only [Visit.after, nothing] using typed
  have fits := wellTyped.steps s (List.mem_of_getElem? found)
  unfold Step.WellTyped at fits
  cases kind : s.kind with
  | question parameters mode =>
    rw [visit_question kind] at visited
    cases visited
    exact same rfl
  | gate condition onTrue onFalse fallback => exact same (visit_gate kind visited).1
  | derivation name type cases =>
    rw [kind] at fits
    obtain ⟨_, ⟨value, _, decided, _⟩ | ⟨_, _, nothing, _⟩⟩ := visit_derivation kind visited
    · rcases derive_ok decided with ⟨_, nothing⟩ | ⟨a, b, _, coerced, ⟨_, _, _, nothing⟩ | ⟨_, written⟩⟩
      · exact same nothing
      · exact same nothing
      · have type := Value.type_of_coerce? (concrete.type_ne_unknown fits.1) coerced
        simp only [Visit.after, written]
        refine typed.insert fun t expected => ?_
        exact type.trans (Option.some.inj (fits.1.symm.trans expected))
    · exact same nothing

/-! ### Runs -/

theorem Rounds.typed (wellTyped : m.WellTyped) (concrete : m.Concrete)
    (rounds : m.Rounds n w target w' target') (typed : m.Typed w.known) : m.Typed w'.known := by
  induction rounds with
  | nil => exact typed
  | cons round rest ih => exact ih (typed.visit wellTyped concrete round.found round.visited)

theorem run_isUntyped (wellFormed : m.WellFormed) (wellTyped : m.WellTyped) (concrete : m.Concrete)
    {config : Config} {answers : ParameterStore} {e : RunError}
    (h : m.run config answers = .error e) : e.IsUntyped := by
  cases normal : m.normalize config.strictAnswers answers with
  | error refused =>
    obtain ⟨_, _, rfl⟩ := acceptAnswers_error normal
    rw [run, normal] at h
    cases h
    rintro _ _ ⟨⟩
  | ok known =>
    have start := typed_of_normalize wellFormed wellTyped concrete normal
    rw [run_of_normalize normal] at h
    rcases walk_cases m config.maxSteps config.maxSteps (.start known) (.step 0) with
      ⟨_, _, _, spent⟩ | ⟨n, w, target, _, rounds, stops⟩
    · cases spent.symm.trans h
      rintro _ _ ⟨⟩
    · rw [h] at stops
      have typed := rounds.typed wellTyped concrete start
      cases stops with
      | cyclic => rintro _ _ ⟨⟩
      | failed found fresh failed => exact typed.visit_error wellFormed wellTyped concrete found failed

/-- A model of concrete types whose derivations refer to each other without a circle never fails
because of a type: no operand, no condition and no derived value has a type that does not fit, so an
evaluation that fails does so in its arithmetic. And whatever a run knows under a declared name has
exactly the declared type. -/
theorem type_safe {text : String} {script : Script} {config : Config} {answers : ParameterStore}
    (read : Script.ofText text = .ok script) (compiled : Model.ofText text = .ok m)
    (concrete : m.Concrete) (acyclic : (m.untyped script).Acyclic) :
    (∀ step fault, m.run config answers = .error (.evaluation step fault) →
        ∃ reason, fault = .expression (.arithmetic reason)) ∧
      (∀ known n w target, m.normalize config.strictAnswers answers = .ok known →
        m.Rounds n (.start known) (.step 0) w target →
        ∀ d ∈ m.declarations, ∀ p, w.known.get? d.name = some p → p.value.type = d.type) ∧
      ∀ r, m.run config answers = .ok r →
        ∀ d ∈ m.declarations, ∀ p, r.parameters.get? d.name = some p → p.value.type = d.type := by
  obtain ⟨steps, constants, declarations, stages⟩ := compiledFrom_of_text read compiled
  have wellFormed := stages.wellFormed
  have wellTyped := stages.wellTyped (stages.typesAgree_of_acyclic acyclic)
  have throughout {known : ParameterStore} {n : Nat} {w : Walk} {target : Target}
      (normal : m.normalize config.strictAnswers answers = .ok known)
      (rounds : m.Rounds n (.start known) (.step 0) w target) :
      ∀ d ∈ m.declarations, ∀ p, w.known.get? d.name = some p → p.value.type = d.type := by
    have start := typed_of_normalize wellFormed wellTyped concrete normal
    intro d declared
    exact rounds.typed wellTyped concrete start d.name d.type (stages.types_of_mem declared)
  refine ⟨?_, fun _ _ _ _ => throughout, ?_⟩
  · intro step fault failed
    exact run_isUntyped wellFormed wellTyped concrete failed step fault rfl
  · intro r ran
    obtain ⟨known, n, w, target, normal, rounds, ends⟩ := wellFormed.run_ends ran
    rw [ends.parameters]
    exact throughout normal rounds

/-- So many shares, as an answer. -/
def shares (n : Decimal) : ParameterStore := .ofList [.ofValue "n" (.number n)]

theorem type_safe_shares : ∃ script, Script.ofText shareScript = .ok script ∧
    Model.ofText shareScript = .ok shareModel ∧ shareModel.Concrete ∧
    (shareModel.untyped script).Acyclic ∧
    (∃ fault, shareModel.run {} (shares .zero) = .error (.evaluation "eerst" fault) ∧
      ∃ reason, fault = .expression (.arithmetic reason)) ∧
    ∃ r p, shareModel.run {} (shares ⟨false, 4, 0, by decide, by decide⟩) = .ok r ∧
      r.parameters.get? "helft" = some p ∧ p.value.type = .number := by
  obtain ⟨script, read, compiled, acyclic⟩ := ofText_shareScript
  have concrete : shareModel.Concrete := by
    unfold Concrete
    decide
  refine ⟨script, read, compiled, concrete, acyclic, ?_, ?_⟩
  · have failed : shareModel.run {} (shares .zero) =
        .error (.evaluation "eerst" (.expression (.arithmetic .divisionByZero))) := by decide
    obtain ⟨arithmetic, _, _⟩ := type_safe read compiled concrete acyclic
    exact ⟨_, failed, arithmetic _ _ failed⟩
  · obtain ⟨_, _, typed⟩ := type_safe read compiled concrete acyclic
    have derived : (shareModel.run {} (shares ⟨false, 4, 0, by decide, by decide⟩)).toOption.map
        (fun r => (r.parameters.get? "helft").isSome) = some true := by decide
    obtain ⟨r, ran, present⟩ := ok_of_map_toOption derived
    obtain ⟨p, found⟩ := Option.isSome_iff_exists.mp present
    have declared : ⟨"helft", .derivation 1, .number⟩ ∈ shareModel.declarations := by decide
    exact ⟨r, p, ran, found, typed r ran _ declared p found⟩

end Model

end Questionnaire
