import Questionnaire.Proofs.Run.Independence

/-!
Runs with more answers.

More answers leave alone whatever was read before, as long as no choice with a known option gets a
further one: an option that was false because of another one stays false. A run with more answers thus
makes all rounds of the run with fewer: `Rounds.ahead`. It goes on from the step at which that one
halts, and an end that was reached without the further answers is reached with them: `run_monotone`.
-/

namespace Questionnaire

theorem ParameterStore.value?_eq_some {known : ParameterStore} {name : String} {v : Value} :
    known.value? name = some v ↔ ∃ p, known.get? name = some p ∧ p.value = v := by
  rw [value?, Option.map_eq_some_iff]

theorem ParameterStore.value?_of_isKnown {known : ParameterStore} {name : String}
    (here : known.isKnown name = true) : known.value? name = some (known.value name) := by
  have value : known.value name = (known.value? name).getD .unknown := rfl
  cases found : known.value? name with
  | none => simp [isKnown_eq, found, Value.isUnknown] at here
  | some v => rw [value, found, Option.getD_some]

theorem Step.asked_of_choice {s : Step} {p : AskedParameter} (option : p ∈ s.choice) :
    p ∈ s.asked := by
  unfold asked
  rw [kind_of_choice option]
  exact option

theorem ParameterStore.value?_of_subset {known wider : ParameterStore} {name : String} {v : Value}
    (included : known.toList ⊆ wider.toList) (here : known.value? name = some v) :
    wider.value? name = some v := by
  obtain ⟨p, found, value⟩ := value?_eq_some.mp here
  obtain ⟨member, named⟩ := get?_eq_some.mp found
  exact value?_eq_some.mpr ⟨p, get?_eq_some.mpr ⟨included member, named⟩, value⟩

namespace Model

/-- A store with all the values of another one and the same ones of derivations, in which a choice with
a known option has got no further one. -/
structure Widens (m : Model) (known wider : ParameterStore) : Prop where
  values : ∀ name v, known.value? name = some v → wider.value? name = some v
  options : ∀ s ∈ m.steps, (∃ p ∈ s.choice, known.isKnown p.name = true) →
    ∀ q ∈ s.choice, wider.isKnown q.name = true → known.isKnown q.name = true
  derived : ∀ name ∈ m.derivedNames, wider.get? name = known.get? name

variable {m : Model} {known wider : ParameterStore} {s : Step} {p : Parameter} {q : AskedParameter}
  {index limit left n : Nat} {v : Visit} {target target' : Target} {w w' u : Walk} {name : String}
  {r : Result}

theorem WellFormed.ne_derived (wellFormed : m.WellFormed) (step : s ∈ m.steps) (asked : q ∈ s.asked)
    (derived : name ∈ m.derivedNames) : q.name ≠ name := by
  rintro rfl
  obtain ⟨index, found⟩ := List.mem_iff_getElem?.mp step
  obtain ⟨_, origin⟩ := wellFormed.mem_derivedNames.mp derived
  rw [wellFormed.origin?_asked found asked] at origin
  cases origin

/-! ### Scopes -/

theorem Widens.isKnown (widens : m.Widens known wider) (here : known.isKnown name = true) :
    wider.isKnown name = true ∧ wider.value name = known.value name := by
  have same := widens.values name _ (ParameterStore.value?_of_isKnown here)
  have value : wider.value name = known.value name :=
    (congrArg (·.getD .unknown) same :)
  exact ⟨by rwa [ParameterStore.isKnown, value], value⟩

theorem Widens.scope (wellFormed : m.WellFormed) (widens : m.Widens known wider) :
    (m.scope wider).Extends (m.scope known) := by
  intro name v found
  rcases scope_eq_some.mp found with constant | ⟨constant, ⟨here, rfl⟩ | ⟨unknown, closed, rfl⟩⟩
  · exact scope_eq_some.mpr (Or.inl constant)
  · exact scope_eq_some.mpr (Or.inr ⟨constant, Or.inl (widens.isKnown here)⟩)
  · -- The name is an option that was not picked, and it has not been picked since.
    obtain ⟨s, step, named, p, picked, here⟩ := wellFormed.isClosedOption_iff.mp closed
    have still : m.isClosedOption wider name = true :=
      wellFormed.isClosedOption_iff.mpr ⟨s, step, named, p, picked, (widens.isKnown here).1⟩
    refine scope_eq_some.mpr (Or.inr ⟨constant, Or.inr ⟨?_, still, rfl⟩⟩)
    obtain ⟨q, option, rfl⟩ := List.mem_map.mp named
    rw [Bool.eq_false_iff]
    intro later
    have early := widens.options s step ⟨p, picked, here⟩ q option later
    exact Bool.false_ne_true (unknown.symm.trans early)

theorem Widens.insert (wellFormed : m.WellFormed) (widens : m.Widens known wider)
    (derived : p.name ∈ m.derivedNames) : m.Widens (known.insert p) (wider.insert p) := by
  constructor
  · intro name v found
    rw [ParameterStore.value?_insert] at found ⊢
    split
    · simpa only [*, if_true] using found
    · rename_i other
      rw [if_neg other] at found
      exact widens.values name v found
  · -- A derivation does not write under the name of an option.
    intro s step picked q option here
    have same {q : AskedParameter} (option : q ∈ s.choice) (known : ParameterStore) :
        (known.insert p).isKnown q.name = known.isKnown q.name :=
      ParameterStore.isKnown_insert_of_ne
        (wellFormed.ne_derived step (Step.asked_of_choice option) derived)
    obtain ⟨p', option', here'⟩ := picked
    rw [same option'] at here'
    rw [same option] at here ⊢
    exact widens.options s step ⟨p', option', here'⟩ q option here
  · intro name member
    rw [ParameterStore.get?_insert, ParameterStore.get?_insert, widens.derived name member]

/-! ### Visits -/

theorem Widens.isAnswered (widens : m.Widens known wider) (answered : s.isAnswered known = true) :
    s.isAnswered wider = true := by
  unfold Step.isAnswered at answered ⊢
  split at answered
  · rw [List.all_eq_true] at answered ⊢
    exact fun q member => (widens.isKnown (answered q member)).1
  · obtain ⟨q, member, here⟩ := List.any_eq_true.mp answered
    exact List.any_eq_true.mpr ⟨q, member, (widens.isKnown here).1⟩
  · rfl

/-- A visit that goes on is the same once more is known. -/
theorem Widens.visit (wellFormed : m.WellFormed) (widens : m.Widens known wider)
    (found : m.steps[index]? = some s) (visited : m.visit known index s = .ok v)
    (goes : v.flow = .go target) : m.visit wider index s = .ok v := by
  refine visit_congr widens.isAnswered ?_ ?_ visited goes
  · intro computes name read
    exact (widens.scope wellFormed).eq_of_isSome (visit_resolved visited goes computes name read)
  · intro name derives
    exact widens.derived name
      (List.mem_filterMap.mpr ⟨s, List.mem_of_getElem? found, derives⟩)

/-! ### Runs -/

/-- Two points of runs that came the same way, the second one knowing more. -/
structure Ahead (m : Model) (w u : Walk) : Prop where
  widens : m.Widens w.known u.known
  consistent : m.Consistent w.known
  version : w.version = u.version
  seen : w.seen = u.seen
  trace : w.trace = u.trace

theorem Ahead.record (wellFormed : m.WellFormed) (ahead : m.Ahead w u)
    (round : m.Round w index s v target) :
    m.Ahead (w.record index s v) (u.record index s v) := by
  refine ⟨?_, round.consistent wellFormed ahead.consistent, ?_, ?_, ?_⟩
  · obtain ⟨writes, _⟩ :=
      ahead.consistent.visit wellFormed round.found round.visited round.goes
    cases written : v.derived with
    | none => simpa only [Walk.record, written] using ahead.widens
    | some p =>
      have derived := wellFormed.mem_derivedNames.mpr ((writes p written).origin wellFormed)
      simpa only [Walk.record, written] using ahead.widens.insert wellFormed derived
  · simp only [Walk.record, ahead.version]
  · simp only [Walk.record_seen, ahead.version, ahead.seen]
  · simp only [Walk.record_trace, ahead.trace]

/-- What a run does, a run that knows more does as well. -/
theorem Rounds.ahead (wellFormed : m.WellFormed) (rounds : m.Rounds n w target w' target')
    (ahead : m.Ahead w u) : ∃ u', m.Rounds n u target u' target' ∧ m.Ahead w' u' := by
  refine rounds.lockstep ?_ (fun ahead => ⟨ahead.version, ahead.seen⟩) ahead
  intro w u index s v target ahead round _
  exact ⟨ahead.widens.visit wellFormed round.found round.visited round.goes,
    ahead.record wellFormed round⟩

theorem Rounds.keeps (wellFormed : m.WellFormed) (rounds : m.Rounds n w target w' target')
    (consistent : m.Consistent w.known) {v : Value} (here : w.known.value? name = some v) :
    w'.known.value? name = some v := by
  obtain ⟨writes, appended, _⟩ := rounds.appends wellFormed consistent
  refine ParameterStore.value?_of_subset ?_ here
  rw [appended]
  exact List.subset_append_left _ _

theorem Stops.trace_prefix (stops : m.Stops w target (.ok r)) : w.trace <+: r.trace := by
  cases stops with
  | finished outcome => exact List.prefix_refl _
  | lost missing => exact List.prefix_refl _
  | halted found fresh visited asks => exact List.prefix_append _ _

theorem Stops.parameters (stops : m.Stops w target (.ok r)) : r.parameters = w.known := by
  cases stops with
  | finished outcome => rfl
  | lost missing => rfl
  | @halted index question s v found fresh visited asks =>
    show v.after w.known = w.known
    rw [Visit.after, (visit_ask visited asks).1]

/-- A walk with a result that begins at a step visits this step first and keeps all values. -/
theorem walk_visits (wellFormed : m.WellFormed) (consistent : m.Consistent w.known)
    (found : m.steps[index]? = some s) (h : m.walk limit left w (.step index) = .ok r) :
    (∃ used later, r.trace = w.trace ++ s.visited used :: later) ∧
      ∀ name v, w.known.value? name = some v → r.parameters.value? name = some v := by
  rcases walk_cases m limit left w (.step index) with ⟨_, _, _, spent⟩ |
    ⟨n, w', target', _, rounds, stops⟩
  · cases spent.symm.trans h
  · rw [h] at stops
    constructor
    · cases rounds with
      | nil =>
        cases stops with
        | lost missing => cases found.symm.trans missing
        | @halted _ _ t v there _ _ _ =>
          cases found.symm.trans there
          exact ⟨v.used, [], rfl⟩
      | @cons _ _ _ _ t v _ _ round rest =>
        cases found.symm.trans round.found
        obtain ⟨later, trace⟩ := rest.trace_prefix.trans stops.trace_prefix
        refine ⟨v.used, later, ?_⟩
        rw [← trace, Walk.record_trace, List.append_assoc, List.singleton_append]
    · intro name v here
      rw [stops.parameters]
      exact rounds.keeps wellFormed consistent here

/-- Runs are monotone in their answers. Let a second run know all that a first one does at the start,
and no further option of a choice that has a known option there. If the first one halts after some
steps, a result of the second one begins with the same visits, then visits the step that halted, and has
all values of the first result. If the first one reaches an end, so does the second one, by the same
visits. -/
theorem run_monotone {text : String} {config : Config} {answers others : ParameterStore}
    {known known' : ParameterStore} (compiled : Model.ofText text = .ok m)
    (ran : m.run config answers = .ok r)
    (normal : m.normalize config.strictAnswers answers = .ok known)
    (normal' : m.normalize config.strictAnswers others = .ok known')
    (values : ∀ name v, known.value? name = some v → known'.value? name = some v)
    (options : ∀ s ∈ m.steps, (∃ p ∈ s.choice, known.isKnown p.name = true) →
      ∀ q ∈ s.choice, known'.isKnown q.name = true → known.isKnown q.name = true) :
    (r.isTerminal = false → ∀ r', m.run config others = .ok r' →
        (∃ visits, ∃ s ∈ m.steps, ∃ used used' later, r.trace = visits ++ [s.visited used] ∧
          r'.trace = visits ++ s.visited used' :: later) ∧
        ∀ name v, r.parameters.value? name = some v → r'.parameters.value? name = some v) ∧
      (r.isTerminal = true → ∃ r', m.run config others = .ok r' ∧ r'.isTerminal = true ∧
        r'.trace = r.trace ∧ r'.outcome = r.outcome) := by
  have wellFormed := wellFormed_of_text compiled
  obtain ⟨start, n, w, target, normal₁, rounds, ends⟩ := wellFormed.run_ends ran
  cases normal.symm.trans normal₁
  have consistent := wellFormed.start_consistent normal'
  have begins : m.Ahead (.start known) (.start known') := by
    refine ⟨⟨values, options, ?_⟩, wellFormed.start_consistent normal, rfl, rfl, rfl⟩
    intro name derived
    exact (wellFormed.get?_derived normal' derived).trans
      (wellFormed.get?_derived normal derived).symm
  obtain ⟨u, rounds', ahead⟩ := rounds.ahead wellFormed begins
  rw [run_of_normalize normal] at ran
  obtain ⟨left, within⟩ := Nat.exists_eq_add_of_le (rounds.le_of_walk (by rw [ran]; exact nofun))
  have goes_on : m.run config others = m.walk config.maxSteps left u target :=
    calc m.run config others
      _ = m.walk config.maxSteps config.maxSteps (.start known') (.step 0) :=
        run_of_normalize normal'
      _ = m.walk config.maxSteps (n + left) (.start known') (.step 0) := by rw [← within]
      _ = m.walk config.maxSteps left u target := walk_rounds rounds'
  have terminal := ends.isTerminal
  rw [goes_on]
  cases ends with
  | finished outcome =>
    refine ⟨fun halted => absurd (terminal.mpr rfl) (by rw [halted]; exact Bool.false_ne_true), ?_⟩
    intro _
    exact ⟨u.finish outcome, walk_finish, rfl, ahead.trace.symm, rfl⟩
  | @halted index question s q v found visited asks there asksMore =>
    refine ⟨?_, fun ended => absurd (terminal.mp ended) nofun⟩
    intro _ r' ran'
    obtain ⟨⟨used', later, trace⟩, kept⟩ :=
      walk_visits wellFormed (rounds'.consistent wellFormed consistent) found ran'
    refine ⟨⟨w.trace, s, List.mem_of_getElem? found, v.used, used', later, rfl, ?_⟩, ?_⟩
    · rw [trace, ahead.trace]
    · intro name v here
      exact kept name v (ahead.widens.values name v here)

/-! ### A home and an income -/

/-- A script about a home that is rented or owned, and about an income. Where the income is not known,
the home is asked for first. -/
def homeScript : String :=
  "steps:\n  - id: woning\n    choice: [huur, koop]\n" ++
    "  - id: recht\n    derive: \x7b name: gehuurd, formula: huur \x7d\n" ++
    "  - id: grens\n    gate: \x7b when: inkomen <= 1000, ask: woning \x7d\n" ++
    "  - id: loon\n    ask:\n      - \x7b name: inkomen, type: Double \x7d\n"

def homeSteps : List Step :=
  [⟨"woning", "", .question
      [⟨"huur", .boolean, .boolean, [], ""⟩, ⟨"koop", .boolean, .boolean, [], ""⟩] .anyOf,
      .step 1, ⟨⟨2, 5, 11⟩, ⟨2, 15, 21⟩⟩⟩,
    ⟨"recht", "", .derivation "gehuurd" .boolean [⟨none, "huur", .ref "huur" ⟨0, 4⟩⟩], .step 2,
      ⟨⟨4, 5, 51⟩, ⟨4, 14, 60⟩⟩⟩,
    ⟨"grens", "", .gate ⟨"inkomen <= 1000", .binary (.order .le) (.ref "inkomen" ⟨0, 7⟩)
      (.literal (.number ((Decimal.ofInt? 1000).getD .zero)) ⟨11, 15⟩) ⟨0, 15⟩⟩ (.step 3)
      (.step 3) (some 0), .step 3, ⟨⟨6, 5, 110⟩, ⟨6, 14, 119⟩⟩⟩,
    ⟨"loon", "", .question [⟨"inkomen", .number, .number, [], ""⟩] .all, .finish none,
      ⟨⟨8, 5, 173⟩, ⟨8, 13, 181⟩⟩⟩]

def homeModel : Model :=
  ⟨[], .empty, homeSteps, [⟨"huur", .question 0, .boolean⟩, ⟨"koop", .question 0, .boolean⟩,
    ⟨"gehuurd", .derivation 1, .boolean⟩, ⟨"inkomen", .question 3, .number⟩]⟩

theorem ofText_homeScript : Model.ofText homeScript = .ok homeModel := by
  have written : homeScript = String.ofList _ :=
    literal_append (literal_append (literal_append rfl rfl) rfl) rfl
  rw [Model.ofText_eq written]
  exact ok_of_toOption (by decide +kernel)

/-- A rented home and an income. -/
def earning (n : Decimal) : ParameterStore :=
  .ofList [.ofValue "huur" (.boolean true), .ofValue "inkomen" (.number n)]

/-- What the script about a home asks for when the home is rented. -/
def rentedResult : Result where
  questions := ⟨"woning", .ofList [.question "koop" .boolean []]⟩
  parameters := .ofList [.ofValue "huur" (.boolean true), .ofValue "gehuurd" (.boolean true)]
  trace := [⟨"woning", "question", "", ["huur", "koop"]⟩, ⟨"recht", "derivation", "", ["huur"]⟩,
    ⟨"grens", "gate", "", ["inkomen"]⟩]
  outcome := none

theorem run_monotone_home :
    Model.ofText homeScript = .ok homeModel ∧
      homeModel.run {} (picked "huur") = .ok rentedResult ∧
      ∃ r', homeModel.run {} (earning ⟨false, 800, 0, by decide, by decide⟩) = .ok r' ∧
        (∃ visits, ∃ s ∈ homeModel.steps, ∃ used used' later,
          rentedResult.trace = visits ++ [s.visited used] ∧
            r'.trace = visits ++ s.visited used' :: later) ∧
        r'.parameters.value? "gehuurd" = some (.boolean true) := by
  have ran : homeModel.run {} (picked "huur") = .ok rentedResult := by decide
  have normal : homeModel.normalize false (picked "huur") = .ok (picked "huur") :=
    ok_of_toOption (by decide)
  have normal' : homeModel.normalize false (earning ⟨false, 800, 0, by decide, by decide⟩) =
      .ok (earning ⟨false, 800, 0, by decide, by decide⟩) := ok_of_toOption (by decide)
  have further : ((homeModel.run {} (earning ⟨false, 800, 0, by decide, by decide⟩)).toOption.map
      fun _ => ()) = some () := by decide
  obtain ⟨r', ran', _⟩ := ok_of_map_toOption further
  obtain ⟨halted, _⟩ := run_monotone ofText_homeScript ran normal normal'
    (fun _ _ => ParameterStore.value?_of_subset (by decide)) (by decide)
  obtain ⟨visits, kept⟩ := halted rfl r' ran'
  exact ⟨ofText_homeScript, ran, r', ran', visits, kept "gehuurd" _ rfl⟩

end Model

end Questionnaire
