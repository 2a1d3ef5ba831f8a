import Questionnaire.AnswerType
import Questionnaire.Decimal.Text
import Questionnaire.Expression.Operator
import Questionnaire.Expression.Token
import Questionnaire.Source.DefectKind
import Questionnaire.Source.Span

/-!
What can be wrong with an expression.
-/

namespace Questionnaire

inductive ExprCause
  | unterminatedString
  | unterminatedEscape
  | unexpectedCharacter (c : Char)
  | empty
  | afterExpression (found : Token)
  | expected (wanted found : Token)
  | chainedComparison
  | badNumber (text : String) (reason : Decimal.ReadError)
  | operandIsKeyword (word : String)
  | endOfExpression
  | expectedOperand (found : Token)
  | unknownFunction (name : String)
  | argumentCount (function : String) (least most found : Nat)
  | unknownParameter (name : String)
  | cannotNegate (type : AnswerType)
  | operandOfNot (type : AnswerType)
  | leftOperand (op : Operator) (type : AnswerType)
  | rightOperand (op : Operator) (type : AnswerType)
  | condition (type : AnswerType)
  | operands (op : Operator) (left right : AnswerType)
  | argumentType (function : String) (type : AnswerType)
deriving DecidableEq, Repr, Inhabited

namespace ExprCause

def kind : ExprCause → DefectKind
  | unknownParameter _ => .unknownReference
  | cannotNegate _ | operandOfNot _ | leftOperand .. | rightOperand .. | condition _ | operands ..
  | argumentType .. => .typeMismatch
  | _ => .syntaxError

def notBoolean (what : String) (type : AnswerType) : String :=
  what ++ " must be Boolean, got " ++ type.name

def message : ExprCause → String
  | unterminatedString => "unterminated string literal"
  | unterminatedEscape => "unterminated escape in string"
  | unexpectedCharacter c => "unexpected character '" ++ String.ofList [c] ++ "'"
  | empty => "empty expression"
  | afterExpression found => "unexpected " ++ found.describe ++ " after expression"
  | expected wanted found => "expected " ++ wanted.describe ++ ", got " ++ found.describe
  | chainedComparison => "comparisons cannot be chained; use 'and'"
  | badNumber text reason => "invalid number '" ++ text ++ "': " ++ reason.message
  | operandIsKeyword word => "expected operand, got keyword '" ++ word ++ "'"
  | endOfExpression => "unexpected end of expression"
  | expectedOperand found => "expected operand, got " ++ found.describe
  | unknownFunction name => "unknown function '" ++ name ++ "'"
  | argumentCount function least most found =>
    "function '" ++ function ++ "' takes " ++
      (if least = most then toString least else toString least ++ " to " ++ toString most) ++
      " argument(s), got " ++ toString found
  | unknownParameter name => "unknown parameter '" ++ name ++ "'"
  | cannotNegate type => "cannot negate a value of type " ++ type.name
  | operandOfNot type => notBoolean "operand of 'not'" type
  | leftOperand op type => notBoolean ("left operand of '" ++ op.symbol ++ "'") type
  | rightOperand op type => notBoolean ("right operand of '" ++ op.symbol ++ "'") type
  | condition type => notBoolean "condition" type
  | operands op left right =>
    "operator '" ++ op.symbol ++ "' cannot combine " ++ left.name ++ " and " ++ right.name
  | argumentType function type =>
    "function '" ++ function ++ "' expects Double arguments, got " ++ type.name

end ExprCause

structure ExprError where
  cause : ExprCause
  span : Span
deriving DecidableEq, Repr, Inhabited

end Questionnaire
