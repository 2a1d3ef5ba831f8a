import Questionnaire.Run.Answers
import Questionnaire.Run.Result
import Questionnaire.Run.Visit

/-!
Runs of a model.

A run visits steps from step 0 on until it reaches an end or halts on a question. A version counts
how often a derivation changed what is known; a step that is visited twice in one version would be
visited for ever, so the run is refused as cyclic.
-/

namespace Questionnaire

/-- A run under way: what is known, how often it has changed, the visited steps with the version in
which they were visited, and what they read. -/
structure Walk where
  known : ParameterStore
  version : Nat
  seen : List (Nat × Nat)
  trace : List Visited
deriving Inhabited

/-- The batch of a question step: its parameters that are not known. -/
def Step.batch (s : Step) (known : ParameterStore) : Batch :=
  ⟨s.id, .ofList ((s.asked.filter fun p => !known.isKnown p.name).map fun p =>
    Parameter.question p.name p.questionType p.options)⟩

def Step.visited (s : Step) (used : List String) : Visited :=
  ⟨s.id, s.kind.name, s.description, used⟩

namespace Walk

def start (known : ParameterStore) : Walk := ⟨known, 0, [], []⟩

def record (w : Walk) (index : Nat) (s : Step) (v : Visit) : Walk where
  known := match v.derived with
    | some p => w.known.insert p
    | none => w.known
  version := if v.derived.isSome then w.version + 1 else w.version
  seen := (index, w.version) :: w.seen
  trace := w.trace ++ [s.visited v.used]

def finish (w : Walk) (outcome : Option String) : Result := ⟨.none, w.known, w.trace, outcome⟩

def halt (w : Walk) (batch : Batch) : Result := ⟨batch, w.known, w.trace, none⟩

end Walk

namespace Model

/-- Goes on from a target, for at most `left` steps out of `limit`. -/
def walk (m : Model) (limit : Nat) : (left : Nat) → Walk → Target → Except RunError Result
  | _, w, .finish outcome => .ok (w.finish outcome)
  | 0, _, .step _ => .error (.stepLimit limit)
  | left + 1, w, .step index =>
    match m.steps[index]? with
    | none => .ok (w.finish none)
    | some s =>
      if w.seen.contains (index, w.version) then .error (.cyclic s.id)
      else
        match m.visit w.known index s with
        | .error e => .error e
        | .ok v =>
          let w := w.record index s v
          match v.flow with
          | .go target => m.walk limit left w target
          | .ask question =>
            .ok (w.halt (((m.steps[question]?).map fun q => q.batch w.known).getD .none))

def run (m : Model) (config : Config) (answers : ParameterStore) : Except RunError Result := do
  let known ← m.normalize config.strictAnswers answers
  m.walk config.maxSteps config.maxSteps (.start known) (.step 0)

end Model

end Questionnaire
