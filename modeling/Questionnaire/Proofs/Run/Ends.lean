import Questionnaire.Proofs.Run.Rounds

/-!
How runs of compiled models end.

A run that has a result reached an end, or it halted on a step that has something left to ask:
`run_ends`. It never loses its way, for all targets of a compiled model are there.
-/

namespace Questionnaire

theorem Step.batch_isEmpty {s : Step} {known : ParameterStore} :
    (s.batch known).parameters.isEmpty = !s.hasOpen known := by
  unfold batch hasOpen
  rw [ParameterStore.isEmpty_ofList]
  generalize s.asked = asked
  induction asked with
  | nil => rfl
  | cons p rest ih =>
    rw [List.filter_cons, List.any_cons]
    cases known.isKnown p.name with
    | true => exact ih
    | false => rfl

namespace Model

variable {m : Model} {known : ParameterStore} {s : Step} {index question n : Nat} {v : Visit}
  {w w' : Walk} {target target' : Target} {r : Result}

theorem hasOpen_of_asked {name : String} (asked : name ∈ s.askedNames)
    (unknown : known.isKnown name = false) : s.hasOpen known = true := by
  obtain ⟨p, member, rfl⟩ := List.mem_map.mp asked
  exact List.any_eq_true.mpr ⟨p, member, by simp [unknown]⟩

theorem hasOpen_of_unanswered (sound : s.Sound n) (isQuestion : s.isQuestion = true)
    (unanswered : s.isAnswered known = false) : s.hasOpen known = true := by
  obtain ⟨_, sound⟩ := sound
  unfold Step.isQuestion at isQuestion
  unfold Step.isAnswered at unanswered
  unfold Step.hasOpen Step.asked
  cases kind : s.kind with
  | question parameters mode =>
    simp only [kind] at sound unanswered ⊢
    cases mode with
    | all =>
      rw [List.all_eq_false] at unanswered
      obtain ⟨p, member, unknown⟩ := unanswered
      exact List.any_eq_true.mpr ⟨p, member, by simpa using unknown⟩
    | anyOf =>
      obtain ⟨p, member⟩ := List.exists_mem_of_ne_nil parameters sound.1
      have unknown := List.any_eq_false.mp unanswered p member
      exact List.any_eq_true.mpr ⟨p, member, by simpa using unknown⟩
  | _ => simp [kind] at isQuestion

/-- A run halts on a step that has something left to ask. -/
theorem WellFormed.halts_open (wellFormed : m.WellFormed) (found : m.steps[index]? = some s)
    (visited : m.visit known index s = .ok v) (asks : v.flow = .ask question) :
    ∃ q, m.steps[question]? = some q ∧ q.hasOpen known = true := by
  obtain ⟨_, ⟨rfl, isQuestion, unanswered⟩ | ⟨name, misses, chosen⟩⟩ := visit_ask visited asks
  · have sound := wellFormed.sound s (List.mem_of_getElem? found)
    exact ⟨s, found, hasOpen_of_unanswered sound isQuestion unanswered⟩
  · rcases questionFor_ok chosen with ⟨_, here⟩ | ⟨_, origin⟩
    · exact here
    · obtain ⟨q, there, asked⟩ := (wellFormed.question name question).mp origin
      exact ⟨q, there, hasOpen_of_asked asked (isKnown_of_scope_none (scope_of_misses misses))⟩

theorem Rounds.inRange (wellFormed : m.WellFormed) (rounds : m.Rounds n w target w' target')
    (inside : target.InRange m.steps.length) : target'.InRange m.steps.length := by
  induction rounds with
  | nil => exact inside
  | cons round rest ih =>
    have sound := wellFormed.sound _ (List.mem_of_getElem? round.found)
    exact ih (visit_inRange sound round.visited round.goes)

/-! ### Ends -/

/-- The point at which a run has its result: at an end, or where a step makes it halt on one with
something left to ask. -/
inductive Ends (m : Model) (w : Walk) : Target → Result → Prop
  | finished (outcome : Option String) : Ends m w (.finish outcome) (w.finish outcome)
  | halted {index question : Nat} {s q : Step} {v : Visit} (found : m.steps[index]? = some s)
      (visited : m.visit w.known index s = .ok v) (asks : v.flow = .ask question)
      (there : m.steps[question]? = some q) (asksMore : q.hasOpen w.known = true) :
      Ends m w (.step index)
        ⟨q.batch w.known, w.known, w.trace ++ [s.visited v.used], none⟩

theorem Ends.parameters (ends : m.Ends w target r) : r.parameters = w.known := by
  cases ends <;> rfl

theorem Ends.isTerminal (ends : m.Ends w target r) :
    r.isTerminal = true ↔ target = .finish r.outcome := by
  cases ends with
  | finished outcome => exact ⟨fun _ => rfl, fun _ => rfl⟩
  | halted found visited asks there asksMore =>
    simp [Result.isTerminal, Step.batch_isEmpty, asksMore]

/-- A run that has a result came to it in rounds. -/
theorem WellFormed.run_ends (wellFormed : m.WellFormed) {config : Config}
    {answers : ParameterStore} (h : m.run config answers = .ok r) :
    ∃ known n w target, m.normalize config.strictAnswers answers = .ok known ∧
      m.Rounds n (.start known) (.step 0) w target ∧ m.Ends w target r := by
  obtain ⟨known, normal, walked⟩ := bind_ok.mp h
  rcases walk_cases m config.maxSteps config.maxSteps (.start known) (.step 0) with
    ⟨_, _, _, spent⟩ | ⟨n, w, target, _, rounds, stops⟩
  · cases spent.symm.trans walked
  · rw [walked] at stops
    refine ⟨known, n, w, target, normal, rounds, ?_⟩
    cases stops with
    | finished outcome => exact .finished outcome
    | lost missing =>
      have inside := rounds.inRange wellFormed (List.length_pos_iff.mpr wellFormed.filled)
      have outside := List.getElem?_eq_none_iff.mp missing
      exact absurd inside (Nat.not_lt.mpr outside)
    | @halted index question s v found fresh visited asks =>
      obtain ⟨q, there, asksMore⟩ := wellFormed.halts_open found visited asks
      have same : v.after w.known = w.known := by
        simp only [Visit.after, (visit_ask visited asks).1]
      have result : (w.record index s v).halt (((m.steps[question]?).map fun q =>
          q.batch (v.after w.known)).getD .none) =
            ⟨q.batch w.known, w.known, w.trace ++ [s.visited v.used], none⟩ := by
        simp only [Walk.halt, Walk.record_known, Walk.record_trace, there, same, Option.map_some,
          Option.getD_some]
      rw [result]
      exact .halted found visited asks there asksMore

end Model

end Questionnaire
