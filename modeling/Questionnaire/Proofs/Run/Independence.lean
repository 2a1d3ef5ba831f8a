import Questionnaire.Proofs.Run.Lockstep
import Questionnaire.Proofs.Run.Retrace

/-!
Answers that a run did not read.

Two runs go side by side as long as they agree on the names that the first one reads and, for an option
of a choice, on which options of that choice are known. They then decide alike at every step and write
the same derived values, so they keep to agree: `Rounds.sideBySide`. A run that reached an end therefore
reaches the same end with all answers that agree with its own in this way: `run_independent`.
-/

namespace Questionnaire

def ParameterStore.value? (known : ParameterStore) (name : String) : Option Value :=
  (known.get? name).map (·.value)

theorem ParameterStore.isKnown_eq {known : ParameterStore} {name : String} :
    known.isKnown name = !((known.value? name).getD .unknown).isUnknown := rfl

theorem ParameterStore.value?_insert {known : ParameterStore} {p : Parameter} {name : String} :
    (known.insert p).value? name = if p.name = name then some p.value else known.value? name := by
  rw [value?, get?_insert]
  split <;> rfl

namespace Model

/-- Two stores agree on names: they have the same values under them, and for an option of a choice the
same options of the choice are known in both. Of two numbers the places are the same as well, as what
is derived from them is to be the same in full. -/
structure Alike (m : Model) (names : List String) (left right : ParameterStore) : Prop where
  values : ∀ name ∈ names, left.value? name = right.value? name
  options : ∀ s ∈ m.steps, ∀ p ∈ s.choice, p.name ∈ names →
    ∀ q ∈ s.choice, left.isKnown q.name = right.isKnown q.name

variable {m : Model} {names : List String} {left right known : ParameterStore} {s : Step}
  {index n : Nat} {v : Visit} {target target' : Target} {w w' u : Walk} {p : Parameter}
  {name : String}

theorem Alike.isKnown (alike : m.Alike names left right) (read : name ∈ names) :
    left.isKnown name = right.isKnown name := by
  rw [ParameterStore.isKnown_eq, ParameterStore.isKnown_eq, alike.values name read]

theorem Alike.insert (alike : m.Alike names left right) :
    m.Alike names (left.insert p) (right.insert p) := by
  constructor
  · intro name read
    rw [ParameterStore.value?_insert, ParameterStore.value?_insert, alike.values name read]
  · intro s step o option read q member
    have same := alike.options s step o option read q member
    rw [ParameterStore.isKnown_eq, ParameterStore.isKnown_eq] at same ⊢
    rw [ParameterStore.value?_insert, ParameterStore.value?_insert]
    split
    · rfl
    · exact same

/-! ### Scopes -/

theorem Alike.isClosedOption (wellFormed : m.WellFormed) (alike : m.Alike names left right)
    (read : name ∈ names) : m.isClosedOption left name = m.isClosedOption right name := by
  rw [Bool.eq_iff_iff, wellFormed.isClosedOption_iff, wellFormed.isClosedOption_iff]
  refine exists_congr fun s => and_congr_right fun step => and_congr_right fun named => ?_
  obtain ⟨p, option, rfl⟩ := List.mem_map.mp named
  exact exists_congr fun q => and_congr_right fun member => by
    rw [alike.options s step p option read q member]

theorem Alike.scope (wellFormed : m.WellFormed) (alike : m.Alike names left right)
    (read : name ∈ names) : m.scope right name = m.scope left name := by
  have value : left.value name = right.value name :=
    congrArg (·.getD .unknown) (alike.values name read)
  unfold Model.scope
  rw [alike.isKnown read, alike.isClosedOption wellFormed read, value]

/-! ### Visits -/

theorem Alike.isAnswered (alike : m.Alike names left right)
    (read : ∀ p ∈ s.asked, p.name ∈ names) : s.isAnswered left = s.isAnswered right := by
  unfold Step.isAnswered
  unfold Step.asked at read
  cases kind : s.kind with
  | question parameters mode =>
    rw [kind] at read
    have same : ∀ p ∈ parameters, left.isKnown p.name = right.isKnown p.name :=
      fun p member => alike.isKnown (read p member)
    cases mode with
    | all =>
      rw [Bool.eq_iff_iff, List.all_eq_true, List.all_eq_true]
      exact forall₂_congr fun p member => by rw [same p member]
    | anyOf =>
      rw [Bool.eq_iff_iff, List.any_eq_true, List.any_eq_true]
      exact exists_congr fun p => and_congr_right fun member => by rw [same p member]
  | _ => rfl

/-- A visit that goes on is the same in a store that agrees on what it reads and on what is derived. -/
theorem Alike.visit (wellFormed : m.WellFormed) (alike : m.Alike names left right)
    (derived : ∀ name ∈ m.derivedNames, left.get? name = right.get? name)
    (found : m.steps[index]? = some s) (visited : m.visit left index s = .ok v)
    (goes : v.flow = .go target) (read : ∀ name ∈ v.used, name ∈ names) :
    m.visit right index s = .ok v := by
  refine visit_congr ?_ ?_ ?_ visited goes
  · intro answered
    by_cases asks : s.isQuestion = true
    · have asked : ∀ p ∈ s.asked, p.name ∈ names :=
        fun p member => read p.name (used_of_asked visited asks member)
      rwa [← alike.isAnswered asked]
    · exact Step.isAnswered_of_computes (Bool.eq_false_iff.mpr asks)
  · intro _ name member
    exact alike.scope wellFormed (read name member)
  · intro name derives
    have member := List.mem_filterMap.mpr ⟨s, List.mem_of_getElem? found, derives⟩
    exact (derived name member).symm

/-! ### Runs -/

/-- Two points of runs that came the same way with stores that agree. -/
structure SideBySide (m : Model) (names : List String) (w u : Walk) : Prop where
  alike : m.Alike names w.known u.known
  derived : ∀ name ∈ m.derivedNames, w.known.get? name = u.known.get? name
  version : w.version = u.version
  seen : w.seen = u.seen
  trace : w.trace = u.trace

theorem SideBySide.record (together : m.SideBySide names w u) :
    m.SideBySide names (w.record index s v) (u.record index s v) := by
  have same : (w.record index s v).version = (u.record index s v).version := by
    simp only [Walk.record, together.version]
  have seen : (w.record index s v).seen = (u.record index s v).seen := by
    simp only [Walk.record_seen, together.version, together.seen]
  have trace : (w.record index s v).trace = (u.record index s v).trace := by
    simp only [Walk.record_trace, together.trace]
  cases written : v.derived with
  | none =>
    have alike := together.alike
    have derived := together.derived
    exact ⟨by simpa [Walk.record, written] using alike, by simpa [Walk.record, written] using derived,
      same, seen, trace⟩
  | some p =>
    refine ⟨?_, ?_, same, seen, trace⟩
    · simpa only [Walk.record, written] using together.alike.insert
    · intro name member
      simp only [Walk.record, written, ParameterStore.get?_insert, together.derived name member]

/-- What one run does, a run that is side by side with it does as well. -/
theorem Rounds.sideBySide (wellFormed : m.WellFormed) (rounds : m.Rounds n w target w' target')
    (together : m.SideBySide names w u)
    (read : ∀ visit ∈ w'.trace, ∀ name ∈ visit.used, name ∈ names) :
    ∃ u', m.Rounds n u target u' target' ∧ m.SideBySide names w' u' := by
  refine rounds.lockstep ?_ (fun together => ⟨together.version, together.seen⟩) together
  intro w u index s v target together round here
  exact ⟨together.alike.visit wellFormed together.derived round.found round.visited round.goes
    (read _ here), together.record⟩

theorem WellFormed.get?_derived (wellFormed : m.WellFormed) {strict : Bool}
    {answers : ParameterStore} (normal : m.normalize strict answers = .ok known)
    (derived : name ∈ m.derivedNames) : known.get? name = none := by
  obtain ⟨index, origin⟩ := wellFormed.mem_derivedNames.mp derived
  refine ParameterStore.get?_eq_none.mpr fun member => ?_
  obtain ⟨_, question⟩ := normalize_answerable normal name member _ origin
  cases question

/-- Answers that a run to an end did not read cannot change it. With other answers that give the names
that it read the same values, and know the same options of the choices among them, the run visits the
same steps, reaches the same end and derives the same values. -/
theorem run_independent {text : String} {config : Config} {answers others : ParameterStore}
    {known known' : ParameterStore} {r : Result} (compiled : Model.ofText text = .ok m)
    (ran : m.run config answers = .ok r) (terminal : r.isTerminal = true)
    (normal : m.normalize config.strictAnswers answers = .ok known)
    (normal' : m.normalize config.strictAnswers others = .ok known')
    (values : ∀ visit ∈ r.trace, ∀ name ∈ visit.used, known.value? name = known'.value? name)
    (options : ∀ visit ∈ r.trace, ∀ name ∈ visit.used, ∀ s ∈ m.steps,
      name ∈ s.choice.map (·.name) →
        ∀ q ∈ s.choice, known.isKnown q.name = known'.isKnown q.name) :
    ∃ r', m.run config others = .ok r' ∧ r'.isTerminal = true ∧ r'.trace = r.trace ∧
      r'.outcome = r.outcome ∧
      ∀ name ∈ m.derivedNames, r'.parameters.value? name = r.parameters.value? name := by
  have wellFormed := wellFormed_of_text compiled
  obtain ⟨start, n, w, target, normal₁, rounds, ends⟩ := wellFormed.run_ends ran
  cases normal.symm.trans normal₁
  have reached := ends.isTerminal.mp terminal
  cases ends with
  | halted => cases reached
  | finished outcome =>
    have together : m.SideBySide (w.trace.flatMap (·.used)) (.start known) (.start known') := by
      refine ⟨⟨?_, ?_⟩, ?_, rfl, rfl, rfl⟩
      · intro name member
        obtain ⟨visit, visited, read⟩ := List.mem_flatMap.mp member
        exact values visit visited name read
      · intro s step p option member
        obtain ⟨visit, visited, read⟩ := List.mem_flatMap.mp member
        exact options visit visited p.name read s step (List.mem_map_of_mem option)
      · intro name derived
        exact (wellFormed.get?_derived normal derived).trans
          (wellFormed.get?_derived normal' derived).symm
    obtain ⟨u, rounds', together'⟩ := rounds.sideBySide wellFormed together
      fun visit visited name read => List.mem_flatMap.mpr ⟨visit, visited, read⟩
    rw [run_of_normalize normal] at ran
    obtain ⟨left, within⟩ := Nat.exists_eq_add_of_le (rounds.le_of_walk (by rw [ran]; exact nofun))
    refine ⟨u.finish outcome, ?_, rfl, together'.trace.symm, rfl, ?_⟩
    · calc m.run config others
        _ = m.walk config.maxSteps config.maxSteps (.start known') (.step 0) :=
          run_of_normalize normal'
        _ = m.walk config.maxSteps (n + left) (.start known') (.step 0) := by rw [← within]
        _ = m.walk config.maxSteps left u (.finish outcome) := walk_rounds rounds'
        _ = .ok (u.finish outcome) := walk_finish
    · intro name derived
      exact congrArg (·.map (·.value)) (together'.derived name derived).symm

/-- An answer to the looping script together with a remark that it does not read. -/
def remarked (name : String) : ParameterStore :=
  .ofList [.ofValue "opmerking" (.text "geen"), .ofValue name (.boolean true)]

theorem run_independent_long :
    Model.ofText loopScript = .ok loopModel ∧
      loopModel.run {} (picked "lang") = .ok longResult ∧ longResult.isTerminal = true ∧
      ∃ r, loopModel.run {} (remarked "lang") = .ok r ∧ r.isTerminal = true ∧
        r.trace = longResult.trace ∧ r.outcome = longResult.outcome ∧
        r.parameters.value? "gekozen" = longResult.parameters.value? "gekozen" := by
  have ran : loopModel.run {} (picked "lang") = .ok longResult := by decide
  have normal : loopModel.normalize false (picked "lang") = .ok (picked "lang") :=
    ok_of_toOption (by decide)
  have normal' : loopModel.normalize false (remarked "lang") = .ok (remarked "lang") :=
    ok_of_toOption (by decide)
  obtain ⟨r, ran', terminal, trace, outcome, derived⟩ :=
    run_independent ofText_loopScript ran rfl normal normal' (by decide) (by decide)
  exact ⟨ofText_loopScript, ran, rfl, r, ran', terminal, trace, outcome,
    derived "gekozen" (by decide)⟩

end Model

end Questionnaire
