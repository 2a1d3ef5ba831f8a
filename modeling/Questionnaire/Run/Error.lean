import Questionnaire.Expression.EvalError

/-!
Why a run fails.
-/

namespace Questionnaire

inductive AnswerFault
  | undeclared
  | wrongType (text : String) (type : AnswerType)
  | noOption (text : String) (options : List String)
deriving DecidableEq, Repr, Inhabited

inductive StepFault
  | expression (e : EvalError)
  | conditionNotBoolean (type : AnswerType) (text : String)
  | derivedType (name : String) (declared found : AnswerType)
deriving DecidableEq, Repr, Inhabited

inductive RunError
  | cyclic (step : String)
  | missingParameter (name step : String)
  | invalidAnswer (name : String) (fault : AnswerFault)
  | evaluation (step : String) (fault : StepFault)
  | stepLimit (limit : Nat)
deriving DecidableEq, Repr, Inhabited

def AnswerFault.message : AnswerFault → String
  | undeclared => "the script does not declare this parameter"
  | wrongType text type => "'" ++ text ++ "' is not a " ++ type.name
  | noOption text options =>
    "'" ++ text ++ "' is not one of: " ++ String.intercalate ", " options

def StepFault.message : StepFault → String
  | expression e => e.message
  | conditionNotBoolean type text =>
    "condition evaluated to " ++ type.name ++ " '" ++ text ++ "'"
  | derivedType name declared found =>
    "'" ++ name ++ "' is declared " ++ declared.name ++ " but evaluated to " ++ found.name

def RunError.message : RunError → String
  | cyclic step => "cyclic model: step '" ++ step ++ "' revisited without progress"
  | missingParameter name step =>
    "missing parameter '" ++ name ++ "' needed by step '" ++ step ++ "'"
  | invalidAnswer name fault => "invalid answer for '" ++ name ++ "': " ++ fault.message
  | evaluation step fault => "evaluation of step '" ++ step ++ "' failed: " ++ fault.message
  | stepLimit limit => "execution exceeded the limit of " ++ toString limit ++ " steps"

end Questionnaire
