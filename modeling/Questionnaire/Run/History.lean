import Questionnaire.Run.Result

/-!
The results of a session, in order.

An earlier screen is not run again: it is shown with the questions that it had and the answers that
are known by now.
-/

namespace Questionnaire

/-- The results of a session, the latest one last. -/
structure History where
  results : List Result
deriving DecidableEq, Inhabited

structure History.OutOfRange where
  index : Nat
  size : Nat
deriving DecidableEq, Repr, Inhabited

def History.OutOfRange.message (e : OutOfRange) : String :=
  "history index " ++ toString e.index ++ " out of range (length " ++ toString e.size ++ ")"

/-- An earlier screen: its questions, and the answers to them that are known by now. -/
structure Replay where
  questions : Batch
  parameters : ParameterStore
deriving DecidableEq, Inhabited

/-- The screen of a result with later answers. -/
def Result.replay (target : Result) (latest : ParameterStore) : Replay :=
  ⟨target.questions,
    .ofList (target.questions.parameters.toList.filterMap fun q => latest.get? q.name)⟩

namespace History

def empty : History := ⟨[]⟩

def size (h : History) : Nat := h.results.length

/-- Adds a result, whose number is the size before. -/
def push (h : History) (r : Result) : History := ⟨h.results ++ [r]⟩

def get (h : History) (index : Nat) : Except OutOfRange Result :=
  match h.results[index]? with
  | some r => .ok r
  | none => .error ⟨index, h.size⟩

def latestIndex? (h : History) : Option Nat := if h.size = 0 then none else some (h.size - 1)

def latest? (h : History) : Option Result := h.results.getLast?

/-- The screen of one result with the answers of another. -/
def display (h : History) (target latest : Nat) : Except OutOfRange Replay := do
  let target ← h.get target
  let latest ← h.get latest
  return target.replay latest.parameters

end History

end Questionnaire
