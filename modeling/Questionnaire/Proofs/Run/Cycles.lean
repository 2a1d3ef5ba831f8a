import Mathlib.Data.List.ProdSigma
import Questionnaire.Proofs.Run.Ends
import Questionnaire.Proofs.Run.WriteOnce

/-!
Cycles.

A run is refused as cyclic when it comes to a step for the second time in a version. As the version
determines what is known, the run would repeat itself from there: `endless_of_seen`. And as there are
so many steps and versions only, a run that goes on for ever comes to such a point.
-/

namespace Questionnaire

/-- What is known and where a run goes on. -/
abbrev Stage := ParameterStore × Target

namespace Model

/-- The next stage of a run that neither remembers its visits nor counts them. There is none if the
run ends, halts or fails. -/
def advance (m : Model) : Stage → Option Stage
  | (_, .finish _) => none
  | (known, .step index) =>
    match m.steps[index]? with
    | none => none
    | some s =>
      match m.visit known index s with
      | .error _ => none
      | .ok v =>
        match v.flow with
        | .go target => some (v.after known, target)
        | .ask _ => none

/-- The stage that is reached in so many steps, if there is one. -/
def advances (m : Model) : Nat → Stage → Option Stage
  | 0, stage => some stage
  | n + 1, stage => (m.advance stage).bind (m.advances n)

/-- From a stage on a run never ends, halts or fails. -/
def Endless (m : Model) (stage : Stage) : Prop := ∀ n, (m.advances n stage).isSome

variable {m : Model} {known : ParameterStore} {stage next : Stage} {w w' : Walk} {s : Step}
  {v : Visit} {target target' : Target} {r : Except RunError Result} {index version n k : Nat}

/-! ### Stages -/

theorem advances_add : m.advances (n + k) stage = (m.advances n stage).bind (m.advances k) := by
  induction n generalizing stage with
  | zero => rw [Nat.zero_add, advances, Option.bind_some]
  | succ n ih =>
    rw [Nat.add_right_comm, advances, advances]
    cases m.advance stage with
    | none => rfl
    | some next => exact ih

theorem advances_of_le (le : k ≤ n) (h : (m.advances n stage).isSome) :
    (m.advances k stage).isSome := by
  obtain ⟨more, rfl⟩ := Nat.exists_eq_add_of_le le
  rw [advances_add] at h
  cases here : m.advances k stage with
  | none => simp [here] at h
  | some next => rfl

theorem endless_of_advances (reached : m.advances n stage = some next)
    (endless : m.Endless next) : m.Endless stage := by
  intro k
  refine advances_of_le (Nat.le_add_left k n) ?_
  rw [advances_add, reached]
  exact endless k

theorem endless_of_loop (loop : m.advances (k + 1) stage = some stage) : m.Endless stage := by
  have again : ∀ n, m.advances ((k + 1) * n) stage = some stage := by
    intro n
    induction n with
    | zero => rfl
    | succ n ih => rw [Nat.mul_succ, advances_add, ih, Option.bind_some, loop]
  intro n
  refine advances_of_le (Nat.le_mul_of_pos_left n (Nat.succ_pos k)) ?_
  rw [again]
  rfl

theorem Round.advance (round : m.Round w index s v target) :
    m.advance (w.known, .step index) = some ((w.record index s v).known, target) := by
  simp only [Model.advance, round.found, round.visited, round.goes, Walk.record_known]

theorem Rounds.advances (rounds : m.Rounds n w target w' target') :
    m.advances n (w.known, target) = some (w'.known, target') := by
  induction rounds with
  | nil => rfl
  | cons round rest ih => rw [Model.advances, round.advance, Option.bind_some, ih]

/-- A run that stops is at its last stage or in a cycle. -/
theorem Stops.cyclic_or_last (stops : m.Stops w target r) :
    (∃ index s, target = .step index ∧ r = .error (.cyclic (Step.id s)) ∧
        (index, w.version) ∈ w.seen) ∨
      m.advance (w.known, target) = none ∧ ∀ id, r ≠ .error (.cyclic id) := by
  cases stops with
  | finished outcome => exact Or.inr ⟨rfl, by simp⟩
  | lost missing => exact Or.inr ⟨by simp only [Model.advance, missing], by simp⟩
  | cyclic found seen => exact Or.inl ⟨_, _, rfl, rfl, seen⟩
  | failed found fresh failed =>
    refine Or.inr ⟨by simp only [Model.advance, found, failed], ?_⟩
    rintro id refused
    cases refused
    rcases visit_error failed with ⟨_, impossible⟩ | ⟨_, impossible⟩ <;> cases impossible
  | halted found fresh visited asks =>
    exact Or.inr ⟨by simp only [Model.advance, found, visited, asks], by simp⟩

/-! ### Visited steps -/

/-- A step that was visited in a version was where a run went on in that version. -/
theorem Rounds.revisit (rounds : m.Rounds n w target w' target')
    (seen : (index, version) ∈ w'.seen) :
    (index, version) ∈ w.seen ∨ ∃ k l w₁, m.Rounds k w target w₁ (.step index) ∧
      w₁.version = version ∧ m.Rounds (l + 1) w₁ (.step index) w' target' := by
  induction rounds with
  | nil => exact Or.inl seen
  | @cons n i w w' s v target target' round rest ih =>
    rcases ih seen with before | ⟨k, l, w₁, first, at_, second⟩
    · rw [Walk.record_seen, List.mem_cons] at before
      rcases before with here | before
      · cases here
        exact Or.inr ⟨0, n, w, .nil w _, rfl, .cons round rest⟩
      · exact Or.inl before
    · exact Or.inr ⟨k + 1, l, w₁, .cons round first, at_, second⟩

/-- A run that comes to a step for the second time in a version never ends, halts or fails. -/
theorem endless_of_seen (wellFormed : m.WellFormed) (consistent : m.Consistent known)
    (rounds : m.Rounds n (.start known) target w (.step index))
    (seen : (index, w.version) ∈ w.seen) : m.Endless (known, target) := by
  rcases rounds.revisit seen with never | ⟨k, l, w₁, first, version, second⟩
  · cases never
  · have later := first.consistent wellFormed consistent
    obtain ⟨writes, appended, counted, _⟩ := second.appends wellFormed later
    -- The version is the same at both visits, so nothing was written in between.
    have nothing : writes = [] := List.length_eq_zero_iff.mp (by omega)
    rw [nothing, List.append_nil] at appended
    have same := ParameterStore.eq_of_toList appended
    refine endless_of_advances first.advances (endless_of_loop (k := l) ?_)
    rw [second.advances, same]

/-- The visits that a run remembers are different, and they are visits to its steps in versions up to
the present one. -/
structure Remembers (m : Model) (w : Walk) : Prop where
  distinct : w.seen.Nodup
  bounded : ∀ visit ∈ w.seen, visit.1 < m.steps.length ∧ visit.2 ≤ w.version

theorem Round.remembers (round : m.Round w index s v target) (before : m.Remembers w) :
    m.Remembers (w.record index s v) := by
  have later : w.version ≤ (w.record index s v).version := by
    simp only [Walk.record]
    split
    · exact Nat.le_succ _
    · exact Nat.le_refl _
  constructor
  · rw [Walk.record_seen, List.nodup_cons]
    exact ⟨round.fresh, before.distinct⟩
  · intro visit member
    rw [Walk.record_seen] at member
    rcases List.mem_cons.mp member with rfl | old
    · exact ⟨(List.getElem?_eq_some_iff.mp round.found).1, later⟩
    · obtain ⟨inside, earlier⟩ := before.bounded visit old
      exact ⟨inside, Nat.le_trans earlier later⟩

theorem Rounds.remembers (rounds : m.Rounds n w target w' target') (before : m.Remembers w) :
    m.Remembers w' ∧ w'.seen.length = w.seen.length + n := by
  induction rounds with
  | nil => exact ⟨before, rfl⟩
  | cons round rest ih =>
    obtain ⟨after, length⟩ := ih (round.remembers before)
    refine ⟨after, ?_⟩
    rw [length, Walk.record_seen, List.length_cons]
    omega

/-- There are no more rounds than pairs of a step and a version. -/
theorem Rounds.length_le (wellFormed : m.WellFormed) (consistent : m.Consistent known)
    (rounds : m.Rounds n (.start known) target w target') :
    n ≤ m.steps.length * (m.derivedNames.length + 1) := by
  obtain ⟨remembers, length⟩ := rounds.remembers ⟨List.nodup_nil, by simp [Walk.start]⟩
  obtain ⟨writes, appends, counted⟩ := rounds.writes_once wellFormed consistent
  have le := appends.length_le
  have pairs : w.seen ⊆ List.range m.steps.length ×ˢ List.range (m.derivedNames.length + 1) := by
    intro visit member
    obtain ⟨inside, earlier⟩ := remembers.bounded visit member
    have version : w.version = 0 + writes.length := counted
    rw [List.mem_product, List.mem_range, List.mem_range]
    omega
  have fits := (List.subperm_of_subset remembers.distinct pairs).length_le
  rw [List.length_product, List.length_range, List.length_range] at fits
  have seen : w.seen.length = 0 + n := length
  omega

/-! ### Limits -/

theorem walk_ne_stepLimit (wellFormed : m.WellFormed) (consistent : m.Consistent known)
    {limit left other : Nat} (large : m.steps.length * (m.derivedNames.length + 1) < left) :
    m.walk limit left (.start known) (.step 0) ≠ .error (.stepLimit other) := by
  intro spent
  rcases walk_cases m limit left (.start known) (.step 0) with ⟨w, index, rounds, _⟩ |
    ⟨n, w, target, _, _, stops⟩
  · have few := rounds.length_le wellFormed consistent
    omega
  · exact stops.ne_stepLimit spent

/-- With such a limit just the runs that never end, halt or fail are refused as cyclic. -/
theorem cyclic_iff_endless (wellFormed : m.WellFormed) (consistent : m.Consistent known)
    {limit left : Nat} (large : m.steps.length * (m.derivedNames.length + 1) < left) :
    (∃ id, m.walk limit left (.start known) (.step 0) = .error (.cyclic id)) ↔
      m.Endless (known, .step 0) := by
  rcases walk_cases m limit left (.start known) (.step 0) with ⟨w, index, rounds, spent⟩ |
    ⟨n, w, target, _, rounds, stops⟩
  · exact absurd spent (walk_ne_stepLimit wellFormed consistent large)
  · rcases stops.cyclic_or_last with ⟨index, s, rfl, refused, seen⟩ | ⟨last, other⟩
    · exact ⟨fun _ => endless_of_seen wellFormed consistent rounds seen, fun _ => ⟨_, refused⟩⟩
    · constructor
      · rintro ⟨id, refused⟩
        exact absurd refused (other id)
      · intro endless
        have further := endless (n + 1)
        rw [advances_add, show m.advances n (known, .step 0) = _ from rounds.advances] at further
        simp [Model.advances, last] at further

/-- Cycles are found exactly. A run appends the values of derivations to what it knows, each under a
name that is new, so its version is at most the number of derivations. With more steps allowed than
there are pairs of a step and a version the limit is never used up, and just the runs that would
never end, halt or fail are refused as cyclic. And a limit that is not used up can be raised without
a change of the result. -/
theorem cycles_exact {text : String} {strict : Bool} {answers : ParameterStore}
    (compiled : Model.ofText text = .ok m) (normal : m.normalize strict answers = .ok known) :
    (∀ k n w w' target target', m.Rounds k (.start known) (.step 0) w target →
        m.Rounds n w target w' target' →
        (∃ writes, m.Appends w.known w'.known writes ∧
          w'.version = w.version + writes.length) ∧ w'.version ≤ m.derivedNames.length) ∧
      (∀ (config : Config) r, config.strictAnswers = strict → m.run config answers = .ok r →
        ∃ writes, m.Appends known r.parameters writes) ∧
      (∀ config : Config, config.strictAnswers = strict →
        m.steps.length * (m.derivedNames.length + 1) < config.maxSteps →
        (∀ limit, m.run config answers ≠ .error (.stepLimit limit)) ∧
        ((∃ id, m.run config answers = .error (.cyclic id)) ↔ m.Endless (known, .step 0))) ∧
      ∀ (config : Config) (more : Nat), config.strictAnswers = strict → config.maxSteps ≤ more →
        (∀ limit, m.run config answers ≠ .error (.stepLimit limit)) →
        m.run { config with maxSteps := more } answers = m.run config answers := by
  have wellFormed := wellFormed_of_text compiled
  have consistent := wellFormed.start_consistent normal
  refine ⟨?_, ?_, ?_, ?_⟩
  · intro k n w w' target target' before after
    refine ⟨after.writes_once wellFormed (before.consistent wellFormed consistent), ?_⟩
    obtain ⟨writes, appends, counted⟩ := (before.trans after).writes_once wellFormed consistent
    have version : w'.version = 0 + writes.length := counted
    have le := appends.length_le
    omega
  · rintro config r rfl ran
    obtain ⟨known', n, w, target, normal', rounds, ends⟩ := wellFormed.run_ends ran
    cases normal.symm.trans normal'
    obtain ⟨writes, appends, _⟩ := rounds.writes_once wellFormed consistent
    rw [ends.parameters]
    exact ⟨writes, appends⟩
  · rintro config rfl large
    rw [run_of_normalize normal]
    exact ⟨fun _ => walk_ne_stepLimit wellFormed consistent large,
      cyclic_iff_endless wellFormed consistent large⟩
  · rintro config more rfl le unspent
    have raised : m.normalize ({ config with maxSteps := more } : Config).strictAnswers answers =
        .ok known := normal
    rw [run_of_normalize normal] at unspent ⊢
    rw [run_of_normalize raised]
    exact walk_of_le (unspent _) le

/-! ### A loop -/

/-- A script that asks how long something takes, and asks again for as long as it is short. -/
def loopScript : String :=
  "steps:\n  - id: keuze\n    choice: [kort, lang]\n" ++
    "  - id: wat\n    derive: \x7b name: gekozen, formula: kort or lang \x7d\n" ++
    "  - id: lus\n    gate: \x7b when: kort, then: keuze \x7d\n"

def loopSteps : List Step :=
  [⟨"keuze", "", .question
      [⟨"kort", .boolean, .boolean, [], ""⟩, ⟨"lang", .boolean, .boolean, [], ""⟩] .anyOf,
      .step 1, ⟨⟨2, 5, 11⟩, ⟨2, 14, 20⟩⟩⟩,
    ⟨"wat", "", .derivation "gekozen" .boolean [⟨none, "kort or lang",
      .binary .or (.ref "kort" ⟨0, 4⟩) (.ref "lang" ⟨8, 12⟩) ⟨0, 12⟩⟩], .step 2,
      ⟨⟨4, 5, 50⟩, ⟨4, 12, 57⟩⟩⟩,
    ⟨"lus", "", .gate ⟨"kort", .ref "kort" ⟨0, 4⟩⟩ (.step 0) (.finish none) none, .step 0,
      ⟨⟨6, 5, 115⟩, ⟨6, 12, 122⟩⟩⟩]

def loopModel : Model :=
  ⟨[], .empty, loopSteps, [⟨"kort", .question 0, .boolean⟩, ⟨"lang", .question 0, .boolean⟩,
    ⟨"gekozen", .derivation 1, .boolean⟩]⟩

theorem ofText_loopScript : Model.ofText loopScript = .ok loopModel := by
  have written : loopScript = String.ofList _ :=
    literal_append (literal_append rfl rfl) rfl
  rw [Model.ofText_eq written]
  exact ok_of_toOption (by decide +kernel)

/-- One of the two options of the script, as it is known. -/
def picked (name : String) : ParameterStore := .ofList [.ofValue name (.boolean true)]

theorem cycles_exact_loop :
    Model.ofText loopScript = .ok loopModel ∧
      loopModel.normalize false (picked "kort") = .ok (picked "kort") ∧
      loopModel.run { maxSteps := 7 } (picked "kort") = .error (.cyclic "lus") ∧
      loopModel.Endless (picked "kort", .step 0) := by
  have normal : loopModel.normalize false (picked "kort") = .ok (picked "kort") :=
    ok_of_toOption (by decide)
  obtain ⟨_, _, limits, _⟩ := cycles_exact ofText_loopScript normal
  obtain ⟨_, cyclic⟩ := limits { maxSteps := 7 } rfl (by decide)
  have refused : loopModel.run { maxSteps := 7 } (picked "kort") = .error (.cyclic "lus") := by
    decide
  exact ⟨ofText_loopScript, normal, refused, cyclic.mp ⟨"lus", refused⟩⟩

end Model

end Questionnaire
