import Questionnaire.Proofs.Run.Cycles
import Questionnaire.Proofs.Run.Ends

/-!
What is known at the end of a run justifies all that the run did.

Each visit is justified by what was known right after it. Later rounds only write what is new, so they
keep it justified: `Rounds.retraces`.
-/

namespace Questionnaire.Model

/-- The visits of a trace, each justified by what is known and going on where the next one is, lead
from one target to another. -/
inductive Retraces (m : Model) (known : ParameterStore) : Target → List Visited → Target → Prop
  | nil (target : Target) : Retraces m known target [] target
  | cons {index : Nat} {s : Step} {used : List String} {next last : Target} {rest : List Visited}
      (found : m.steps[index]? = some s) (justified : s.Justified m known used next)
      (later : Retraces m known next rest last) :
      Retraces m known (.step index) (s.visited used :: rest) last

variable {m : Model} {known : ParameterStore} {w w' : Walk} {target target' : Target} {n index : Nat}
  {visits : List Visited}

/-- What a run knows after some rounds justifies these rounds. -/
theorem Rounds.retraces (wellFormed : m.WellFormed) (rounds : m.Rounds n w target w' target')
    (consistent : m.Consistent w.known) :
    ∃ visits, w'.trace = w.trace ++ visits ∧ m.Retraces w'.known target visits target' := by
  induction rounds with
  | nil w target => exact ⟨[], by simp, .nil target⟩
  | cons round rest ih =>
    have after := round.consistent wellFormed consistent
    obtain ⟨visits, traced, later⟩ := ih after
    obtain ⟨_, justified⟩ :=
      consistent.visit wellFormed round.found round.visited round.goes
    refine ⟨_, ?_, .cons round.found (rest.justified wellFormed after round.found justified) later⟩
    rw [traced, Walk.record_trace, List.append_assoc]
    rfl

theorem Retraces.head (retraces : m.Retraces known (.step index) visits target) :
    (visits = [] ∧ target = .step index) ∨
      ∃ s, m.steps[index]? = some s ∧ visits.head?.map (·.step) = some s.id := by
  cases retraces with
  | nil => exact Or.inl ⟨rfl, rfl⟩
  | cons found justified later => exact Or.inr ⟨_, found, rfl⟩

/-- The final parameters of a run justify its decisions. The trace begins at the first step, and each
step that was gone on from reads the same names in them and goes on where the run went on. A terminal
trace leads to the end whose outcome the result has; any other leads to the step that halted. -/
theorem run_retraces {text : String} {config : Config} {answers : ParameterStore} {r : Result}
    (compiled : Model.ofText text = .ok m) (h : m.run config answers = .ok r) :
    (∃ s, m.steps[0]? = some s ∧ r.trace.head?.map (·.step) = some s.id) ∧
      (r.isTerminal = true → m.Retraces r.parameters (.step 0) r.trace (.finish r.outcome)) ∧
      (r.isTerminal = false → ∃ visits index s used, r.trace = visits ++ [s.visited used] ∧
        m.steps[index]? = some s ∧ m.Retraces r.parameters (.step 0) visits (.step index)) := by
  have wellFormed := wellFormed_of_text compiled
  obtain ⟨known, n, w, target, normal, rounds, ends⟩ := wellFormed.run_ends h
  obtain ⟨visits, traced, retraces⟩ :=
    rounds.retraces wellFormed (wellFormed.start_consistent normal)
  have trace : w.trace = visits := traced
  have terminal := ends.isTerminal
  cases ends with
  | finished outcome =>
    have ended : m.Retraces w.known (.step 0) w.trace (.finish outcome) := trace ▸ retraces
    rcases ended.head with ⟨_, impossible⟩ | first
    · cases impossible
    · exact ⟨first, fun _ => ended, nofun⟩
  | @halted index question s q v found visited asks there asksMore =>
    refine ⟨?_, fun ended => absurd (terminal.mp ended) nofun,
      fun _ => ⟨visits, index, s, v.used, by rw [trace], found, retraces⟩⟩
    rcases retraces.head with ⟨nothing, here⟩ | ⟨first, start, head⟩
    · cases here
      exact ⟨s, found, by simp [trace, nothing, Step.visited]⟩
    · obtain ⟨visit, begins, named⟩ := Option.map_eq_some_iff.mp head
      exact ⟨first, start, by simp [trace, begins, named]⟩

/-- What comes of the looping script for something that takes long. -/
def longResult : Result where
  questions := .none
  parameters := .ofList [.ofValue "lang" (.boolean true), .ofValue "gekozen" (.boolean true)]
  trace := [⟨"keuze", "question", "", ["kort", "lang"]⟩,
    ⟨"wat", "derivation", "", ["kort", "lang"]⟩, ⟨"lus", "gate", "", ["kort"]⟩]
  outcome := none

theorem run_retraces_long :
    Model.ofText loopScript = .ok loopModel ∧
      loopModel.run {} (picked "lang") = .ok longResult ∧
      loopModel.Retraces longResult.parameters (.step 0) longResult.trace (.finish none) := by
  have ran : loopModel.run {} (picked "lang") = .ok longResult := by decide
  obtain ⟨_, ended, _⟩ := run_retraces ofText_loopScript ran
  exact ⟨ofText_loopScript, ran, ended rfl⟩

end Questionnaire.Model
