import Questionnaire.Expression.Evaluation
import Questionnaire.Model.Basic
import Questionnaire.Run.Error

/-!
What a step does with what is known.

A step goes on at a target, perhaps after it has derived a value, or it makes the run halt on a
question step. Where a step needs a name that is not known, the step that asks for the name is the
one to halt on.
-/

namespace Questionnaire

inductive Flow
  | go (target : Target)
  | ask (step : Nat)
deriving DecidableEq, Repr, Inhabited

/-- A visit to a step: the names it read, the parameter that it changed, and how it hands on. -/
structure Visit where
  used : List String
  derived : Option Parameter
  flow : Flow
deriving DecidableEq, Inhabited

namespace Step

def isAnswered (s : Step) (known : ParameterStore) : Bool :=
  match s.kind with
  | .question parameters .all => parameters.all fun p => known.isKnown p.name
  | .question parameters .anyOf => parameters.any fun p => known.isKnown p.name
  | _ => true

def hasOpen (s : Step) (known : ParameterStore) : Bool :=
  s.asked.any fun p => !known.isKnown p.name

end Step

namespace Model

/-- Whether a name is an option of a choice in which an option is known. -/
def isClosedOption (m : Model) (known : ParameterStore) (name : String) : Bool :=
  match m.origin? name with
  | some (.question index) =>
    match m.kind? index with
    | some (.question parameters .anyOf) => parameters.any fun p => known.isKnown p.name
    | _ => false
  | _ => false

/-- The value of a name: a constant, or what is known. Once an option of a choice is known, the
others are false. -/
def scope (m : Model) (known : ParameterStore) : Scope := fun name =>
  match m.constants.get? name with
  | some c => some c.value
  | none =>
    if known.isKnown name then some (known.value name)
    else if m.isClosedOption known name then some (.boolean false)
    else none

/-- The question step to halt on when a step needs a name that is not known: the fallback as long as
it has something to ask, else the step that asks for the name. -/
def questionFor (m : Model) (known : ParameterStore) (s : Step) (fallback : Option Nat)
    (name : String) : Except RunError Nat :=
  match fallback.filter fun index => (m.steps[index]?).any (·.hasOpen known) with
  | some index => .ok index
  | none =>
    match m.origin? name with
    | some (.question index) => .ok index
    | _ => .error (.missingParameter name s.id)

end Model

/-- The value of the first case that applies, if any does, and the names read for it. -/
def evaluateCases (scope : Scope) :
    List Case → Except EvalError (Option Value) × List String
  | [] => (.ok none, [])
  | c :: rest =>
    match c.guard with
    | none =>
      let (value, reads) := c.formula.root.evaluate scope
      (value.map some, reads)
    | some guard =>
      let (condition, reads) := guard.root.evaluate scope
      match condition with
      | .error e => (.error e, reads)
      | .ok (.boolean true) =>
        let (value, more) := c.formula.root.evaluate scope
        (value.map some, reads ++ more)
      | .ok (.boolean false) =>
        let (value, more) := evaluateCases scope rest
        (value, reads ++ more)
      | .ok v => (.error (.type (.guardNotBoolean v.type)), reads)

namespace Model

/-- The flow of a step whose evaluation failed: it halts if a name is missing. -/
def flowOfError (m : Model) (known : ParameterStore) (s : Step) (fallback : Option Nat) :
    EvalError → Except RunError Flow
  | .missing name => (m.questionFor known s fallback name).map .ask
  | e => .error (.evaluation s.id (.expression e))

def flowOfGate (m : Model) (known : ParameterStore) (s : Step) (onTrue onFalse : Target)
    (fallback : Option Nat) : Except EvalError Value → Except RunError Flow
  | .ok (.boolean true) => .ok (.go onTrue)
  | .ok (.boolean false) => .ok (.go onFalse)
  | .ok v => .error (.evaluation s.id (.conditionNotBoolean v.type v.toText))
  | .error e => m.flowOfError known s fallback e

/-- The parameter that a derivation changes: none when no case applies or the value is known. -/
def derive (known : ParameterStore) (s : Step) (name : String) (type : AnswerType) :
    Option Value → Except RunError (Option Parameter)
  | none => .ok none
  | some v =>
    match v.coerce? type with
    | none => .error (.evaluation s.id (.derivedType name type v.type))
    | some v =>
      if (known.get? name).any fun p => p.value.same v then .ok none
      else .ok (some (.ofValue name v))

def visit (m : Model) (known : ParameterStore) (index : Nat) (s : Step) : Except RunError Visit :=
  match s.kind with
  | .question parameters _ =>
    .ok ⟨distinctNames (parameters.map (·.name)), none,
      if s.isAnswered known then .go s.next else .ask index⟩
  | .gate condition onTrue onFalse fallback =>
    let (value, reads) := condition.root.evaluate (m.scope known)
    (m.flowOfGate known s onTrue onFalse fallback value).map fun flow =>
      ⟨distinctNames reads, none, flow⟩
  | .derivation name type cases =>
    let (value, reads) := evaluateCases (m.scope known) cases
    match value with
    | .ok v =>
      (derive known s name type v).map fun derived => ⟨distinctNames reads, derived, .go s.next⟩
    | .error e =>
      (m.flowOfError known s none e).map fun flow => ⟨distinctNames reads, none, flow⟩

end Model

end Questionnaire
