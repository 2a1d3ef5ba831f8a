import Questionnaire.Proofs.Run.Visits
import Questionnaire.Run.Walk

/-!
Runs as sequences of rounds.

A round is a visit that goes on. After some rounds a run stops, unless its limit comes first:
`walk_cases`. Where it stops depends on the limit no more than that: `walk_of_le`.
-/

namespace Questionnaire

theorem Walk.record_known (w : Walk) (index : Nat) (s : Step) (v : Visit) :
    (w.record index s v).known = v.after w.known := rfl

theorem Walk.record_seen (w : Walk) (index : Nat) (s : Step) (v : Visit) :
    (w.record index s v).seen = (index, w.version) :: w.seen := rfl

theorem Walk.record_trace (w : Walk) (index : Nat) (s : Step) (v : Visit) :
    (w.record index s v).trace = w.trace ++ [s.visited v.used] := rfl

namespace Model

/-- A round of a run: a step that was not visited in this version is visited, and it goes on. -/
structure Round (m : Model) (w : Walk) (index : Nat) (s : Step) (v : Visit) (target : Target) :
    Prop where
  found : m.steps[index]? = some s
  fresh : (index, w.version) ∉ w.seen
  visited : m.visit w.known index s = .ok v
  goes : v.flow = .go target

/-- So many rounds of a run, from one point of it to another. -/
inductive Rounds (m : Model) : Nat → Walk → Target → Walk → Target → Prop
  | nil (w : Walk) (target : Target) : Rounds m 0 w target w target
  | cons {n index : Nat} {w w' : Walk} {s : Step} {v : Visit} {target target' : Target}
      (round : m.Round w index s v target)
      (rest : Rounds m n (w.record index s v) target w' target') :
      Rounds m (n + 1) w (.step index) w' target'

/-- A point at which a run does not go on, and the result that it then has. -/
inductive Stops (m : Model) (w : Walk) : Target → Except RunError Result → Prop
  | finished (outcome : Option String) : Stops m w (.finish outcome) (.ok (w.finish outcome))
  | lost {index : Nat} (missing : m.steps[index]? = none) :
      Stops m w (.step index) (.ok (w.finish none))
  | cyclic {index : Nat} {s : Step} (found : m.steps[index]? = some s)
      (seen : (index, w.version) ∈ w.seen) : Stops m w (.step index) (.error (.cyclic s.id))
  | failed {index : Nat} {s : Step} {e : RunError} (found : m.steps[index]? = some s)
      (fresh : (index, w.version) ∉ w.seen) (failed : m.visit w.known index s = .error e) :
      Stops m w (.step index) (.error e)
  | halted {index question : Nat} {s : Step} {v : Visit} (found : m.steps[index]? = some s)
      (fresh : (index, w.version) ∉ w.seen) (visited : m.visit w.known index s = .ok v)
      (asks : v.flow = .ask question) :
      Stops m w (.step index) (.ok ((w.record index s v).halt
        (((m.steps[question]?).map fun q => q.batch (v.after w.known)).getD .none)))

variable {m : Model} {w w' : Walk} {target target' : Target} {limit limit' n left left' index : Nat}
  {s : Step} {v : Visit} {r : Except RunError Result}

theorem run_of_normalize {config : Config} {answers known : ParameterStore}
    (normal : m.normalize config.strictAnswers answers = .ok known) :
    m.run config answers = m.walk config.maxSteps config.maxSteps (.start known) (.step 0) := by
  rw [run, normal]
  rfl

/-! ### Single steps of a walk -/

theorem walk_finish {outcome : Option String} :
    m.walk limit left w (.finish outcome) = .ok (w.finish outcome) := by
  cases left <;> rfl

theorem walk_round (round : m.Round w index s v target) :
    m.walk limit (left + 1) w (.step index) = m.walk limit left (w.record index s v) target := by
  have fresh := Bool.eq_false_iff.mpr (mt List.contains_iff_mem.mp round.fresh)
  simp only [walk, round.found, fresh, round.visited, round.goes, Bool.false_eq_true, if_false]

theorem walk_stops (stops : m.Stops w target r) : m.walk limit (left + 1) w target = r := by
  cases stops with
  | finished outcome => exact walk_finish
  | lost missing => simp only [walk, missing]
  | cyclic found seen =>
    have again := List.contains_iff_mem.mpr seen
    simp only [walk, found, again, if_true]
  | failed found fresh failed =>
    have fresh := Bool.eq_false_iff.mpr (mt List.contains_iff_mem.mp fresh)
    simp only [walk, found, fresh, failed, Bool.false_eq_true, if_false]
  | halted found fresh visited asks =>
    have fresh := Bool.eq_false_iff.mpr (mt List.contains_iff_mem.mp fresh)
    simp only [walk, found, fresh, visited, asks, Bool.false_eq_true, if_false]
    rfl

/-- At every point a run goes on or stops. -/
theorem round_or_stops (m : Model) (w : Walk) (target : Target) :
    (∃ index s v target', target = .step index ∧ m.Round w index s v target') ∨
      ∃ r, m.Stops w target r := by
  cases target with
  | finish outcome => exact Or.inr ⟨_, .finished outcome⟩
  | step index =>
    cases found : m.steps[index]? with
    | none => exact Or.inr ⟨_, .lost found⟩
    | some s =>
      by_cases seen : (index, w.version) ∈ w.seen
      · exact Or.inr ⟨_, .cyclic found seen⟩
      · cases visited : m.visit w.known index s with
        | error e => exact Or.inr ⟨_, .failed found seen visited⟩
        | ok v =>
          cases flow : v.flow with
          | go target => exact Or.inl ⟨index, s, v, target, rfl, found, seen, visited, flow⟩
          | ask question => exact Or.inr ⟨_, .halted found seen visited flow⟩

theorem Stops.ne_stepLimit (stops : m.Stops w target r) : r ≠ .error (.stepLimit limit) := by
  rintro rfl
  cases stops with
  | failed found fresh failed =>
    rcases visit_error failed with ⟨_, impossible⟩ | ⟨_, impossible⟩ <;> cases impossible

/-! ### Whole walks -/

theorem walk_rounds (rounds : m.Rounds n w target w' target') :
    m.walk limit (n + left) w target = m.walk limit left w' target' := by
  induction rounds with
  | nil w target => rw [Nat.zero_add]
  | @cons n index w w' s v target target' round rest ih =>
    rw [Nat.add_right_comm, walk_round round, ih]

/-- A walk that does not use up its limit makes no more rounds than it may. -/
theorem Rounds.le_of_walk (rounds : m.Rounds n w target w' target')
    (h : m.walk limit left w target ≠ .error (.stepLimit limit)) : n ≤ left := by
  induction rounds generalizing left with
  | nil => exact Nat.zero_le _
  | cons round rest ih =>
    cases left with
    | zero => exact absurd rfl h
    | succ left =>
      rw [walk_round round] at h
      exact Nat.succ_le_succ (ih h)

/-- A walk comes to a stop after some rounds, or it makes as many rounds as it may. -/
theorem walk_cases (m : Model) (limit left : Nat) (w : Walk) (target : Target) :
    (∃ w' index, m.Rounds left w target w' (.step index) ∧
        m.walk limit left w target = .error (.stepLimit limit)) ∨
      ∃ n w' target', n ≤ left ∧ m.Rounds n w target w' target' ∧
        m.Stops w' target' (m.walk limit left w target) := by
  induction left generalizing w target with
  | zero =>
    cases target with
    | finish outcome =>
      rw [walk_finish]
      exact Or.inr ⟨0, w, _, Nat.le_refl 0, .nil w _, .finished outcome⟩
    | step index => exact Or.inl ⟨w, index, .nil w _, rfl⟩
  | succ left ih =>
    rcases round_or_stops m w target with ⟨index, s, v, next, rfl, round⟩ | ⟨r, stops⟩
    · rw [walk_round round]
      rcases ih (w.record index s v) next with ⟨w', last, rounds, spent⟩ |
        ⟨n, w', target', le, rounds, stops⟩
      · exact Or.inl ⟨w', last, .cons round rounds, spent⟩
      · exact Or.inr ⟨n + 1, w', target', Nat.succ_le_succ le, .cons round rounds, stops⟩
    · rw [walk_stops stops]
      exact Or.inr ⟨0, w, target, Nat.zero_le _, .nil w target, stops⟩

/-- A walk that does not use up its limit has the same result under every larger one. -/
theorem walk_of_le (h : m.walk limit left w target ≠ .error (.stepLimit limit)) (le : left ≤ left') :
    m.walk limit' left' w target = m.walk limit left w target := by
  induction left generalizing left' w target with
  | zero =>
    cases target with
    | finish outcome => rw [walk_finish, walk_finish]
    | step index => exact absurd rfl h
  | succ left ih =>
    obtain ⟨more, rfl⟩ := Nat.exists_eq_add_of_le' (Nat.le_trans (Nat.succ_pos left) le)
    rcases round_or_stops m w target with ⟨index, s, v, next, rfl, round⟩ | ⟨r, stops⟩
    · rw [walk_round round] at h ⊢
      rw [walk_round round]
      exact ih h (Nat.le_of_succ_le_succ le)
    · rw [walk_stops stops, walk_stops stops]

theorem Rounds.trans {k : Nat} {w'' : Walk} {target'' : Target}
    (first : m.Rounds n w target w' target') (second : m.Rounds k w' target' w'' target'') :
    m.Rounds (n + k) w target w'' target'' := by
  induction first with
  | nil w target => rwa [Nat.zero_add]
  | cons round rest ih =>
    rw [Nat.add_right_comm]
    exact .cons round (ih second)

end Model

end Questionnaire
