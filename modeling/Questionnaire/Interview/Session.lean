import Questionnaire.Interview.Line
import Questionnaire.Run.History
import Questionnaire.Run.Walk
import Questionnaire.Screen.Text

/-!
Interview sessions.

Every line that answers something runs the model once and adds the result to the history. To go back
shows the screen that the current one was answered from, filled in with the latest answers; nothing
is run until the next answer.
-/

namespace Questionnaire

/-- The captions that a script gives: a step has its description, a parameter its own one. -/
def Model.titles (m : Model) : List (String × String) :=
  Dictionary.ofList (m.steps.flatMap fun s =>
    (if s.description.isEmpty then [] else [(s.id, s.description)]) ++
      (s.asked.filter fun p => !p.description.isEmpty && p.description ≠ s.description).map fun p =>
        (p.name, p.description))

/-- The captions of a script as labels. It has no hints. -/
def Model.labels (m : Model) : Labels :=
  ⟨fun name => Dictionary.get? name m.titles, fun _ => none⟩

/-- A session: the answers so far, all results, the number of the result that is shown, and the
numbers of those that it was answered from, the latest one first. -/
structure Session where
  model : Model
  config : Config
  answers : ParameterStore
  history : History
  shown : Nat
  trail : List Nat
deriving Inhabited

inductive Notice
  | atFirst
  | usage
  | failed (e : RunError)
deriving DecidableEq, Inhabited

def Notice.message : Notice → String
  | atFirst => "already at the first question"
  | usage => "usage: name=value, '<' to go back, 'q' to quit"
  | failed e => "error: " ++ e.message

/-- What a session shows: the result at an end, or a screen that waits for a line. -/
inductive View
  | done (text : String)
  | ask (text : String)
deriving DecidableEq, Repr, Inhabited

namespace Session

def start (model : Model) (config : Config) : Except RunError Session := do
  let first ← model.run config .empty
  return ⟨model, config, .empty, History.empty.push first, 0, []⟩

def current (s : Session) : Except History.OutOfRange Result := s.history.get s.shown

def prompt (s : Session) (r : Result) : Prompt := Prompt.ofResult s.model.labels r

def view (s : Session) : Except History.OutOfRange View := do
  let replay ← s.history.display s.shown (s.history.latestIndex?.getD s.shown)
  let r ← s.current
  if r.isTerminal then return .done r.toText
  else return .ask ((s.prompt r).screen replay.parameters ++ "> ")

/-- The session with further answers, if the model runs on them. -/
def submit (s : Session) (given : List Parameter) : Session × Option Notice :=
  let answers := s.answers.insertAll given
  match s.model.run s.config answers with
  | .ok r =>
    ({ s with
      answers
      history := s.history.push r
      shown := s.history.size
      trail := s.shown :: s.trail }, none)
  | .error e => (s, some (.failed e))

def step (s : Session) : Command → Session × Option Notice
  | .nothing | .quit => (s, none)
  | .back =>
    match s.trail with
    | [] => (s, some .atFirst)
    | previous :: rest => ({ s with shown := previous, trail := rest }, none)
  | .answer line =>
    match s.current with
    | .error _ => (s, some .usage)
    | .ok r =>
      match (s.prompt r).readAnswers? r.questions.parameters line with
      | none => (s, some .usage)
      | some given => s.submit given

def stepAll (s : Session) (lines : List String) : Session :=
  lines.foldl (fun s line => (s.step (.ofLine line)).1) s

end Session

end Questionnaire
