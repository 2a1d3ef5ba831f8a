import Questionnaire.Expression.Tree
import Questionnaire.Parameter.Store
import Questionnaire.Source.Position

/-!
Models: scripts in a form that can be run.

The steps of a model are numbered from 0, and a run begins at step 0. Steps refer to each other by
number, so nothing is looked up by its id while a model is walked.
-/

namespace Questionnaire

inductive Target
  | step (index : Nat)
  | finish (outcome : Option String)
deriving DecidableEq, Repr, Inhabited

/-- When a question step counts as answered: when all its parameters are known, or when some option
of a choice is. -/
inductive AnswerMode
  | all
  | anyOf
deriving DecidableEq, Repr, Inhabited

/-- A parameter that a step asks for. It is shown as a question of `questionType`, and its answer has
the type `valueType`. -/
structure AskedParameter where
  name : String
  questionType : AnswerType
  valueType : AnswerType
  options : List String
  description : String
deriving DecidableEq, Inhabited

structure Case where
  guard : Option Formula
  formula : Formula
deriving DecidableEq, Inhabited

inductive StepKind
  | question (parameters : List AskedParameter) (mode : AnswerMode)
  | derivation (name : String) (type : AnswerType) (cases : List Case)
  | gate (condition : Formula) (onTrue onFalse : Target) (fallback : Option Nat)
deriving DecidableEq, Inhabited

def StepKind.name : StepKind → String
  | question .. => "question"
  | derivation .. => "derivation"
  | gate .. => "gate"

/-- A step and the place where it is declared. After a gate a run goes on at one of its branches. -/
structure Step where
  id : String
  description : String
  kind : StepKind
  next : Target
  range : Range
deriving DecidableEq, Inhabited

def Step.asked (s : Step) : List AskedParameter :=
  match s.kind with
  | .question parameters _ => parameters
  | _ => []

def Step.isQuestion (s : Step) : Bool :=
  match s.kind with
  | .question .. => true
  | _ => false

/-- What gives a name its value. -/
inductive Origin
  | constant
  | question (step : Nat)
  | derivation (step : Nat)
deriving DecidableEq, Repr, Inhabited

structure Declaration where
  name : String
  origin : Origin
  type : AnswerType
deriving DecidableEq, Inhabited

structure Model where
  info : List (String × String)
  constants : ParameterStore
  steps : List Step
  declarations : List Declaration
deriving DecidableEq, Inhabited

namespace Model

def stepIndex? (m : Model) (id : String) : Option Nat := m.steps.findIdx? (·.id == id)

def step? (m : Model) (id : String) : Option Step := m.steps.find? (·.id == id)

def declaration? (m : Model) (name : String) : Option Declaration :=
  m.declarations.find? (·.name == name)

def origin? (m : Model) (name : String) : Option Origin := (m.declaration? name).map (·.origin)

def kind? (m : Model) (index : Nat) : Option StepKind := (m.steps[index]?).map (·.kind)

/-- The parameter that is asked for under a name, and the number of the step that asks. -/
def asked? (m : Model) (name : String) : Option (Nat × AskedParameter) := do
  let declaration ← m.declaration? name
  match declaration.origin with
  | .question index =>
    let step ← m.steps[index]?
    let parameter ← step.asked.find? (·.name == name)
    return (index, parameter)
  | _ => none

/-- All parameters that are asked for, in the order of the steps. -/
def questions (m : Model) : List (Step × AskedParameter) :=
  m.steps.flatMap fun s => s.asked.map fun p => (s, p)

end Model

end Questionnaire
