import Questionnaire.Expression.Parser
import Questionnaire.Model.Basic
import Questionnaire.Model.Places
import Questionnaire.Value.Coercion
import Questionnaire.Value.Yaml

/-!
The steps of a model out of the steps of a script.

Ids are checked first, then each step in turn. A step is exactly one of a choice, questions, a
derivation and a gate.
-/

namespace Questionnaire

structure StepSite where
  places : Places
  ids : List String
  index : Nat
  step : Script.Step

namespace StepSite

def failLine {α : Type} (s : StepSite) (cause : ScriptCause) : Except Defect α :=
  .error ⟨cause, s.places.line s.index⟩

def fail {α : Type} (s : StepSite) (part : String) (cause : ScriptCause) : Except Defect α :=
  .error ⟨cause, s.places.within s.index part⟩

/-! ### Parts of steps -/

/-- The step behind this one, or the end. -/
def following (s : StepSite) : Target :=
  if s.index + 1 < s.ids.length then .step (s.index + 1) else .finish none

def jump (s : StepSite) (id : String) : Except Defect Target :=
  match s.ids.idxOf? id with
  | some index => .ok (.step index)
  | none => s.fail id (.unknownTarget s.step.id id)

def target (s : StepSite) : Option Script.Target → Except Defect Target
  | none => .ok s.following
  | some (.named name) =>
    if name = "next" then .ok s.following
    else if name = "end" then .ok (.finish none)
    else s.jump name
  | some (.goto id) => s.jump id
  | some (.outcome label) =>
    if Text.isBlankText label then s.fail "outcome" (.emptyOutcome s.step.id)
    else .ok (.finish (some label))

/-- A label. It is a scalar that is not blank. -/
def label (s : StepSite) (cause : ScriptCause) (value : Yaml.Value) : Except Defect String :=
  match value.scalarText? with
  | some text => if Text.isBlankText text then s.failLine cause else .ok text
  | none => s.failLine cause

/-- An expression. Numbers and truth values count as their text. -/
def expression (s : StepSite) (field : ExpressionField) (value : Yaml.Value) :
    Except Defect Formula :=
  match value.scalarText? with
  | none => s.failLine (.noExpression s.step.id field)
  | some text => (Formula.ofText text).mapError (s.places.exprDefect s.index s.step.id field text)

/-! ### Kinds of steps -/

def description (s : StepSite) : String := s.step.description.getD ""

/-- A choice: every option is a truth value. -/
def choice (s : StepSite) (options : List Yaml.Value) : Except Defect StepKind := do
  if options.isEmpty then s.fail "choice" (.choiceWithoutOptions s.step.id)
  let names ← options.mapM (s.label .emptyChoiceLabel)
  return .question (names.map fun name => ⟨name, .boolean, .boolean, [], s.description⟩) .anyOf

/-- The type that all labels have; text when they differ. -/
def sharedType : List String → AnswerType
  | [] => .text
  | first :: rest =>
    let type := (Value.ofText first).type
    if rest.all fun option => (Value.ofText option).type == type then type else .text

/-- The type of the answer to a question with options: the declared one, which must fit all options,
or the one that they share. -/
def optionType (s : StepSite) (question : Script.Question) (options : List String) :
    Except Defect AnswerType :=
  match question.type with
  | none | some .list | some .unknown => .ok (sharedType options)
  | some type =>
    match options.find? fun option => ((Value.text option).coerce? type).isNone with
    | some option => s.fail option (.optionOfOtherType option question.name type)
    | none => .ok type

def asked (s : StepSite) (question : Script.Question) : Except Defect AskedParameter := do
  if Text.isBlankText question.name then s.fail "ask" (.unnamedQuestion s.step.id)
  let description := (question.description <|> s.step.description).getD ""
  match question.options with
  | none =>
    let type := question.type.getD .unknown
    return ⟨question.name, type, type, [], description⟩
  | some values =>
    let options ← values.mapM (s.label .emptyOptionLabel)
    if options.isEmpty then s.fail "options" (.emptyOptionList question.name)
    let type ← s.optionType question options
    return ⟨question.name, .list, type, options, description⟩

def questions (s : StepSite) (questions : List Script.Question) : Except Defect StepKind := do
  if questions.isEmpty then s.fail "ask" (.nothingAsked s.step.id)
  return .question (← questions.mapM s.asked) .all

def case (s : StepSite) (c : Script.Case) : Except Defect Case := do
  let guard ← c.guard.mapM (s.expression .caseCondition)
  return ⟨guard, ← s.expression .caseFormula c.formula⟩

/-- A derivation: a single formula, or cases. -/
def derivation (s : StepSite) (d : Script.Derivation) : Except Defect StepKind := do
  if Text.isBlankText d.name then s.fail "derive" (.unnamedDerivation s.step.id)
  let cases ← match d.formula, d.cases with
    | some formula, none => (s.expression .formula formula).map fun f => [⟨none, f⟩]
    | none, some (first :: others) => (first :: others).mapM s.case
    | _, _ => s.fail "derive" (.noFormula s.step.id)
  return .derivation d.name (d.type.getD .unknown) cases

def gate (s : StepSite) (g : Script.Gate) : Except Defect StepKind := do
  let condition ← s.expression .condition g.condition
  let onTrue ← s.target g.onTrue
  let onFalse ← s.target g.onFalse
  match g.fallback with
  | none => return .gate condition onTrue onFalse none
  | some id =>
    match s.ids.idxOf? id with
    | some index => return .gate condition onTrue onFalse (some index)
    | none => s.fail id (.unknownFallback s.step.id id)

def kind (s : StepSite) : Except Defect StepKind :=
  match s.step.choice, s.step.questions, s.step.derivation, s.step.gate with
  | some options, none, none, none => s.choice options
  | none, some questions, none, none => s.questions questions
  | none, none, some derivation, none => s.derivation derivation
  | none, none, none, some gate =>
    if s.step.next.isSome then s.fail "next" (.gateWithNext s.step.id) else s.gate gate
  | _, _, _, _ => s.failLine (.notOneKind s.step.id)

def build (s : StepSite) : Except Defect Step := do
  let kind ← s.kind
  let next ← match kind with
    | .gate _ onTrue _ _ => pure onTrue
    | _ => s.target s.step.next
  return ⟨s.step.id, s.description, kind, next, s.places.line s.index⟩

end StepSite

/-! ### All steps -/

/-- Words that stand for targets and are no ids. -/
def reservedIds : List String := ["next", "end"]

/-- Refuses ids that are blank, reserved or taken; `taken` are those of the steps in front. -/
def checkIds (places : Places) : (index : Nat) → (taken : List String) → List String →
    Except Defect Unit
  | _, _, [] => .ok ()
  | index, taken, id :: ids =>
    if Text.isBlankText id then .error ⟨.emptyId, places.line index⟩
    else if reservedIds.contains id then .error ⟨.reservedId id, places.line index⟩
    else if taken.contains id then .error ⟨.duplicateId id, places.line index⟩
    else checkIds places (index + 1) (id :: taken) ids

/-- Builds steps one after the other; `index` is the number of the first one. -/
def buildSteps (places : Places) (ids : List String) : (index : Nat) → List Script.Step →
    Except Defect (List Step)
  | _, [] => .ok []
  | index, step :: rest => do
    let built ← StepSite.build ⟨places, ids, index, step⟩
    let others ← buildSteps places ids (index + 1) rest
    return built :: others

end Questionnaire
