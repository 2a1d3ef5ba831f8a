import Questionnaire.Proofs.Run.Rounds

/-!
Runs in lockstep.

What a visit that goes on does depends on what is known only through the values of the names that it
reads, through whether its step counts as answered, and through what is held under the name that it
derives: `visit_congr`. Two runs that agree on these make the same rounds: `Rounds.lockstep`.
-/

namespace Questionnaire

theorem Step.isAnswered_of_computes {s : Step} {known : ParameterStore}
    (computes : s.isQuestion = false) : s.isAnswered known = true := by
  unfold isQuestion at computes
  unfold isAnswered
  cases kind : s.kind with
  | question => simp [kind] at computes
  | _ => rfl

namespace Model

variable {m : Model} {known left right : ParameterStore} {s : Step} {index n : Nat} {v : Visit}
  {target target' : Target} {w w' u : Walk}

/-! ### Visits -/

/-- A visit that goes on without asking has a value for every name that it reads. -/
theorem visit_resolved (visited : m.visit known index s = .ok v) (goes : v.flow = .go target)
    (computes : s.isQuestion = false) : ∀ name ∈ v.used, (m.scope known name).isSome := by
  cases kind : s.kind with
  | question => simp [Step.isQuestion, kind] at computes
  | gate condition onTrue onFalse fallback =>
    obtain ⟨_, used, decided⟩ := visit_gate kind visited
    rcases flowOfGate_ok decided with ⟨b, outcome, _⟩ | ⟨_, _, _, _, asks⟩
    · intro name read
      rw [used, mem_distinctNames] at read
      exact Expr.reads_resolved outcome name read
    · cases asks.symm.trans goes
  | derivation name type cases =>
    obtain ⟨used, ⟨value, outcome, _, _⟩ | ⟨_, _, _, failed⟩⟩ := visit_derivation kind visited
    · intro name read
      rw [used, mem_distinctNames] at read
      exact evaluateCases_resolved outcome name read
    · obtain ⟨_, _, _, _, asks⟩ := flowOfError_ok failed
      cases asks.symm.trans goes

/-- A visit to a question step reads the names that the step asks for. -/
theorem used_of_asked {p : AskedParameter} (visited : m.visit known index s = .ok v)
    (asks : s.isQuestion = true) (member : p ∈ s.asked) : p.name ∈ v.used := by
  cases kind : s.kind with
  | question parameters mode =>
    rw [visit_question kind] at visited
    have used : v.used = distinctNames (parameters.map (·.name)) :=
      (congrArg Visit.used (Except.ok.inj visited)).symm
    rw [used, mem_distinctNames]
    exact List.mem_map_of_mem (by simpa [Step.asked, kind] using member)
  | _ => simp [Step.isQuestion, kind] at asks

/-- A visit that goes on is the same in a store that answers its step, resolves what it reads alike
and holds the same under the name that it derives. -/
theorem visit_congr (answered : s.isAnswered left = true → s.isAnswered right = true)
    (resolved : s.isQuestion = false → ∀ name ∈ v.used, m.scope right name = m.scope left name)
    (derived : ∀ name, s.derivedName? = some name → right.get? name = left.get? name)
    (visited : m.visit left index s = .ok v) (goes : v.flow = .go target) :
    m.visit right index s = .ok v := by
  cases kind : s.kind with
  | question parameters mode =>
    rw [visit_question kind] at visited ⊢
    have flow := congrArg Visit.flow (Except.ok.inj visited)
    have here : s.isAnswered left = true := by
      by_contra unanswered
      simp only [unanswered, if_false] at flow
      cases flow.trans goes
    rw [answered here]
    rwa [here] at visited
  | gate condition onTrue onFalse fallback =>
    obtain ⟨_, used, decided⟩ := visit_gate kind visited
    have computes : s.isQuestion = false := by simp [Step.isQuestion, kind]
    have same : condition.root.evaluate (m.scope right) = condition.root.evaluate (m.scope left) :=
      Expr.evaluate_congr fun name read =>
        resolved computes name (by rwa [used, mem_distinctNames])
    rcases flowOfGate_ok decided with ⟨b, outcome, _⟩ | ⟨_, _, _, _, asks⟩
    · simp only [Model.visit, kind, same, outcome] at visited ⊢
      cases b <;> exact visited
    · cases asks.symm.trans goes
  | derivation name type cases =>
    obtain ⟨used, ⟨value, outcome, _, _⟩ | ⟨_, _, _, failed⟩⟩ := visit_derivation kind visited
    · have computes : s.isQuestion = false := by simp [Step.isQuestion, kind]
      have same : evaluateCases (m.scope right) cases = evaluateCases (m.scope left) cases :=
        evaluateCases_congr fun name read =>
          resolved computes name (by rwa [used, mem_distinctNames])
      have held := derived name (Step.derivedName?_eq_some.mpr ⟨type, cases, kind⟩)
      simp only [Model.visit, kind, same, outcome] at visited ⊢
      unfold derive at visited ⊢
      rw [held]
      exact visited
    · obtain ⟨_, _, _, _, asks⟩ := flowOfError_ok failed
      cases asks.symm.trans goes

/-! ### Rounds -/

theorem Rounds.trace_prefix (rounds : m.Rounds n w target w' target') : w.trace <+: w'.trace := by
  induction rounds with
  | nil => exact List.prefix_refl _
  | cons round rest ih =>
    rw [Walk.record_trace] at ih
    exact (List.prefix_append _ _).trans ih

/-- Rounds of one run are rounds of another one too, if a relation of the two runs carries each round
over and is kept by it. -/
theorem Rounds.lockstep {R : Walk → Walk → Prop} (rounds : m.Rounds n w target w' target')
    (step : ∀ {w u index s v target}, R w u → m.Round w index s v target →
      s.visited v.used ∈ w'.trace →
      m.visit u.known index s = .ok v ∧ R (w.record index s v) (u.record index s v))
    (counts : ∀ {w u}, R w u → w.version = u.version ∧ w.seen = u.seen) (together : R w u) :
    ∃ u', m.Rounds n u target u' target' ∧ R w' u' := by
  induction rounds generalizing u with
  | nil w target => exact ⟨u, .nil u target, together⟩
  | @cons n index w w' s v target target' round rest ih =>
    have here : s.visited v.used ∈ w'.trace := by
      refine rest.trace_prefix.subset ?_
      rw [Walk.record_trace]
      exact List.mem_append_right _ (List.mem_singleton.mpr rfl)
    obtain ⟨visited, next⟩ := step together round here
    obtain ⟨version, seen⟩ := counts together
    have fresh : (index, u.version) ∉ u.seen := by
      rw [← version, ← seen]
      exact round.fresh
    obtain ⟨u', rounds', together'⟩ := ih step next
    exact ⟨u', .cons ⟨round.found, fresh, visited, round.goes⟩ rounds', together'⟩

end Model

end Questionnaire
