import Questionnaire.Expression.Arithmetic
import Questionnaire.Expression.Tree

/-!
Values of expressions.

Evaluation goes from left to right. An operand of `and` or `or` that cannot change the outcome is
not evaluated, so it cannot make anybody wait for an answer. Beside the value stand the names that
were read, in order and with repetitions.
-/

namespace Questionnaire

/-- The values of names, as far as they are known. -/
abbrev Scope := String → Option Value

/-- The value or the error of an expression, and the names read for it. -/
abbrev Evaluation := Except EvalError Value × List String

namespace Operator

def truth (op : Operator) : Value → Except EvalError Bool
  | .boolean b => .ok b
  | v => .error (.type (.operandNotBoolean op v.type))

/-- The outcome that the left operand settles on its own. -/
def settled? (op : Operator) (left : Value) : Except EvalError (Option Value) :=
  match op with
  | and => (op.truth left).map fun b => if b then none else some (.boolean false)
  | or => (op.truth left).map fun b => if b then some (.boolean true) else none
  | _ => .ok none

/-- The outcome of both operands, the left one of which does not settle it. -/
def apply (op : Operator) (left right : Value) : Except EvalError Value :=
  match op with
  | and | or => (op.truth right).map .boolean
  | arithmetic op => left.compute op right
  | eq | ne | order _ => (left.compareBy op right).map .boolean

end Operator

def UnaryOperator.apply : UnaryOperator → Value → Except EvalError Value
  | .not, .boolean b => .ok (.boolean !b)
  | .not, v => .error (.type (.operandOfNot v.type))
  | .neg, .number d => .ok (.number d.neg)
  | .neg, .timeSpan t => (orFault .dateRange t.neg?).map .timeSpan
  | .neg, v => .error (.type (.cannotNegate v.type))

def argument (function : String) : Value → Except EvalError Decimal
  | .number d => .ok d
  | v => .error (.type (.argumentNotNumber function v.type))

def Function1.apply : Function1 → Decimal → Except EvalError Decimal
  | abs, d => .ok d.abs
  | round, d => d.roundTo .zero

def Function2.apply : Function2 → Decimal → Decimal → Except EvalError Decimal
  | min, a, b => .ok (a.min b)
  | max, a, b => .ok (a.max b)
  | round, a, b => a.roundTo b

namespace Expr

/-- The value of an expression and the names read for it. -/
def evaluate (scope : Scope) : Expr → Evaluation
  | literal v _ => (.ok v, [])
  | ref name _ =>
    match scope name with
    | some v => (.ok v, [name])
    | none => (.error (.missing name), [name])
  | unary op e _ =>
    let (value, reads) := e.evaluate scope
    (value.bind op.apply, reads)
  | binary op l r _ =>
    let (left, reads) := l.evaluate scope
    match left with
    | .error e => (.error e, reads)
    | .ok a =>
      match op.settled? a with
      | .error e => (.error e, reads)
      | .ok (some v) => (.ok v, reads)
      | .ok none =>
        let (right, more) := r.evaluate scope
        (right.bind (op.apply a), reads ++ more)
  | call1 f a _ =>
    let (value, reads) := a.evaluate scope
    (do let d ← argument f.name (← value)
        return .number (← f.apply d), reads)
  | call2 f a b _ =>
    let (first, reads) := a.evaluate scope
    match first.bind (argument f.name) with
    | .error e => (.error e, reads)
    | .ok x =>
      let (second, more) := b.evaluate scope
      (do let y ← argument f.name (← second)
          return .number (← f.apply x y), reads ++ more)

end Expr

end Questionnaire
