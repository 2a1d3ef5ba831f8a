import Questionnaire.AnswerType
import Questionnaire.Decimal.Text
import Questionnaire.Expression.Operator

/-!
Why an expression has no value.
-/

namespace Questionnaire

inductive TypeFault
  | notArithmetic (op : Operator)
  | notComparison (op : Operator)
  | operandOfNot (type : AnswerType)
  | cannotNegate (type : AnswerType)
  | operandNotBoolean (op : Operator) (type : AnswerType)
  | argumentNotNumber (function : String) (type : AnswerType)
  | cannotCombine (op : Operator) (left right : AnswerType)
  | cannotOrder (op : Operator) (left right : AnswerType)
  | guardNotBoolean (type : AnswerType)
deriving DecidableEq, Repr, Inhabited

inductive ArithmeticFault
  | overflow (what : String)
  | divisionByZero
  | precision (digits : String)
  | dateRange
deriving DecidableEq, Repr, Inhabited

/-- Why an expression has no value: it needs a name that is not known yet, its types do not fit, or
a result is out of range. -/
inductive EvalError
  | missing (name : String)
  | type (fault : TypeFault)
  | arithmetic (fault : ArithmeticFault)
deriving DecidableEq, Repr, Inhabited

def TypeFault.message : TypeFault → String
  | notArithmetic op => "operator '" ++ op.symbol ++ "' is not arithmetic"
  | notComparison op => "operator '" ++ op.symbol ++ "' is not a comparison"
  | operandOfNot type => "'not' expects Boolean, got " ++ type.name
  | cannotNegate type => "cannot negate " ++ type.name
  | operandNotBoolean op type =>
    "operator '" ++ op.symbol ++ "' expects Boolean operands, got " ++ type.name
  | argumentNotNumber function type =>
    "function '" ++ function ++ "' expects Double arguments, got " ++ type.name
  | cannotCombine op left right =>
    "operator '" ++ op.symbol ++ "' cannot combine " ++ left.name ++ " and " ++ right.name
  | cannotOrder op left right =>
    "operator '" ++ op.symbol ++ "' cannot order " ++ left.name ++ " and " ++ right.name
  | guardNotBoolean type => "case condition evaluated to " ++ type.name

def ArithmeticFault.message : ArithmeticFault → String
  | overflow what => what ++ " overflow"
  | divisionByZero => "division by zero"
  | precision digits =>
    "round precision must be a whole number between 0 and 28, got " ++ digits
  | dateRange => "date outside the supported range"

def EvalError.message : EvalError → String
  | missing name => "parameter '" ++ name ++ "' is not known"
  | type fault => "type error: " ++ fault.message
  | arithmetic fault => "arithmetic error: " ++ fault.message

end Questionnaire
