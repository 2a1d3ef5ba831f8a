import Questionnaire.Expression.Defect
import Questionnaire.Expression.Tree

/-!
Types of expressions.

The unknown type stands for a type that shows only when the value is there: it fits wherever a
concrete type is expected.
-/

namespace Questionnaire

abbrev TypeEnv := String → Option AnswerType

namespace AnswerType

/-- The type that an arithmetic operator gives. A moment and a span add up to a moment; the
difference of two moments is a span; spans are added to each other and scaled by numbers. -/
def arithmetic? : ArithmeticOperator → AnswerType → AnswerType → Option AnswerType
  | _, number, number => some number
  | .add, timeSpan, timeSpan => some timeSpan
  | .sub, timeSpan, timeSpan => some timeSpan
  | .add, moment, timeSpan => some moment
  | .sub, moment, timeSpan => some moment
  | .add, timeSpan, moment => some moment
  | .sub, moment, moment => some timeSpan
  | .mul, timeSpan, number => some timeSpan
  | .mul, number, timeSpan => some timeSpan
  | .div, timeSpan, number => some timeSpan
  | _, unknown, unknown => some unknown
  | _, unknown, number => some number
  | _, number, unknown => some number
  | _, unknown, moment => some unknown
  | _, unknown, timeSpan => some unknown
  | _, moment, unknown => some unknown
  | _, timeSpan, unknown => some unknown
  | _, _, _ => none

def fits (a b : AnswerType) : Bool := a == b || a == unknown || b == unknown

def isOrdered (t : AnswerType) : Bool :=
  t == number || t == moment || t == timeSpan || t == unknown

def isBoolean (t : AnswerType) : Bool := t == boolean || t == unknown

end AnswerType

namespace Expr

def binaryType (op : Operator) (l r : AnswerType) (left right whole : Span) :
    Except ExprError AnswerType :=
  match op with
  | .and | .or =>
    if !l.isBoolean then .error ⟨.leftOperand op l, left⟩
    else if !r.isBoolean then .error ⟨.rightOperand op r, right⟩
    else .ok .boolean
  | .eq | .ne => if l.fits r then .ok .boolean else .error ⟨.operands op l r, whole⟩
  | .order _ =>
    if l.isOrdered && r.isOrdered && l.fits r then .ok .boolean
    else .error ⟨.operands op l r, whole⟩
  | .arithmetic a =>
    match AnswerType.arithmetic? a l r with
    | some t => .ok t
    | none => .error ⟨.operands op l r, whole⟩

def unaryType (op : UnaryOperator) (t : AnswerType) (operand whole : Span) :
    Except ExprError AnswerType :=
  match op with
  | .neg =>
    if t = .number ∨ t = .timeSpan ∨ t = .unknown then .ok t
    else .error ⟨.cannotNegate t, whole⟩
  | .not => if t.isBoolean then .ok .boolean else .error ⟨.operandOfNot t, operand⟩

/-- Refuses an argument of a function that is not a number. -/
def checkArgument (function : String) (t : AnswerType) (arg : Span) : Except ExprError Unit :=
  if t = .number ∨ t = .unknown then .ok () else .error ⟨.argumentType function t, arg⟩

def type (env : TypeEnv) : Expr → Except ExprError AnswerType
  | literal v _ => .ok v.type
  | ref name span =>
    match env name with
    | some t => .ok t
    | none => .error ⟨.unknownParameter name, span⟩
  | unary op e span => do
    let t ← e.type env
    unaryType op t e.span span
  | binary op l r span => do
    let lt ← l.type env
    let rt ← r.type env
    binaryType op lt rt l.span r.span span
  | call1 f a _ => do
    let t ← a.type env
    checkArgument f.name t a.span
    return .number
  | call2 f a b _ => do
    let t ← a.type env
    checkArgument f.name t a.span
    let u ← b.type env
    checkArgument f.name u b.span
    return .number

def checkCondition (env : TypeEnv) (e : Expr) : Except ExprError Unit := do
  let t ← e.type env
  if t.isBoolean then return () else throw ⟨.condition t, e.span⟩

end Expr

end Questionnaire
