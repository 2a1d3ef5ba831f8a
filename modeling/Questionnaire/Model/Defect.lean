import Questionnaire.Expression.Defect
import Questionnaire.Json.Printer
import Questionnaire.Source.Position
import Questionnaire.Yaml.Error

/-!
What can be wrong with a script.
-/

namespace Questionnaire

/-- The parts of a step that are expressions. -/
inductive ExpressionField
  | condition
  | formula
  | caseCondition
  | caseFormula
deriving DecidableEq, Repr, Inhabited

def ExpressionField.describe (step : String) : ExpressionField → String
  | condition => "step '" ++ step ++ "' condition"
  | formula => "step '" ++ step ++ "' formula"
  | caseCondition => "step '" ++ step ++ "' case condition"
  | caseFormula => "step '" ++ step ++ "' case formula"

inductive ScriptCause
  | document (e : Yaml.Error)
  | noSteps
  | emptyId
  | reservedId (id : String)
  | duplicateId (id : String)
  | gateWithNext (id : String)
  | notOneKind (id : String)
  | choiceWithoutOptions (id : String)
  | nothingAsked (id : String)
  | unnamedQuestion (id : String)
  | emptyOptionLabel
  | emptyChoiceLabel
  | emptyOptionList (parameter : String)
  | optionOfOtherType (option parameter : String) (type : AnswerType)
  | unnamedDerivation (id : String)
  | noFormula (id : String)
  | emptyOutcome (id : String)
  | unknownTarget (id target : String)
  | unknownFallback (id target : String)
  | noExpression (id : String) (field : ExpressionField)
  | expression (id : String) (field : ExpressionField) (cause : ExprCause)
  | unnamedConstant
  | duplicateConstant (name : String)
  | constantWithoutValue (name : String)
  | alreadyDeclared (name : String) (step : Option String)
  | fallbackIsNoQuestion (id target : String)
  | formulaType (id name : String) (expected found : AnswerType)
deriving DecidableEq, Inhabited

namespace ScriptCause

def kind : ScriptCause → DefectKind
  | unknownTarget .. | unknownFallback .. => .unknownReference
  | optionOfOtherType .. | formulaType .. => .typeMismatch
  | expression _ _ cause => cause.kind
  | _ => .syntaxError

def message : ScriptCause → String
  | document e => "invalid script: " ++ e.message
  | noSteps => "script declares no steps"
  | emptyId => "step id is empty"
  | reservedId id => "'" ++ id ++ "' is reserved and cannot be used as a step id"
  | duplicateId id => "duplicate step id '" ++ id ++ "'"
  | gateWithNext id =>
    "gate step '" ++ id ++ "' branches with then/else and cannot declare next"
  | notOneKind id =>
    "step '" ++ id ++ "' must declare exactly one of choice, ask, derive or gate"
  | choiceWithoutOptions id => "choice step '" ++ id ++ "' has no options"
  | nothingAsked id => "question step '" ++ id ++ "' asks for nothing"
  | unnamedQuestion id => "question step '" ++ id ++ "' asks for a parameter without a name"
  | emptyOptionLabel => "option must be a non-empty scalar"
  | emptyChoiceLabel => "choice option must be a non-empty scalar"
  | emptyOptionList parameter => "parameter '" ++ parameter ++ "' declares an empty option list"
  | optionOfOtherType option parameter type =>
    "option '" ++ option ++ "' of parameter '" ++ parameter ++ "' is not a " ++ type.name
  | unnamedDerivation id => "derivation step '" ++ id ++ "' has no name"
  | noFormula id =>
    "derivation step '" ++ id ++ "' must declare either a formula or a non-empty list of cases"
  | emptyOutcome id => "step '" ++ id ++ "' declares an empty outcome"
  | unknownTarget id target => "step '" ++ id ++ "' continues at unknown step '" ++ target ++ "'"
  | unknownFallback id target =>
    "gate '" ++ id ++ "' falls back to unknown step '" ++ target ++ "'"
  | noExpression id field => field.describe id ++ ": expected an expression"
  | expression id field cause => field.describe id ++ ": " ++ cause.message
  | unnamedConstant => "constant without a name"
  | duplicateConstant name => "duplicate constant '" ++ name ++ "'"
  | constantWithoutValue name => "constant '" ++ name ++ "' has no value"
  | alreadyDeclared name none => "'" ++ name ++ "' is already declared by a constant"
  | alreadyDeclared name (some step) =>
    "'" ++ name ++ "' is already declared by step '" ++ step ++ "'"
  | fallbackIsNoQuestion id target =>
    "gate '" ++ id ++ "' falls back to '" ++ target ++ "', which is not a question step"
  | formulaType id name expected found =>
    ExpressionField.formula.describe id ++ ": '" ++ name ++ "' is " ++ expected.name ++
      " but this formula yields " ++ found.name

end ScriptCause

structure Defect where
  cause : ScriptCause
  range : Range
deriving DecidableEq, Inhabited

def Position.toJson (p : Position) : Json :=
  .object [("column", .ofNat p.column), ("index", .ofNat p.index), ("line", .ofNat p.line)]

def Range.toJson (r : Range) : Json :=
  .object [("end", r.finish.toJson), ("start", r.start.toJson)]

namespace Defect

def toText (d : Defect) : String :=
  d.cause.kind.text ++ " at line " ++ toString d.range.start.line ++ ", column " ++
    toString d.range.start.column ++ ": " ++ d.cause.message

/-- A defect as an editor reads it. -/
def toJson (d : Defect) : Json :=
  .object [("debugInfo", d.range.toJson), ("isError", .bool true),
    ("kind", .string d.cause.kind.name), ("message", .string d.cause.message)]

end Defect

end Questionnaire
