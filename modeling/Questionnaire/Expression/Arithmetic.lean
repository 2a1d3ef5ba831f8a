import Questionnaire.Decimal.Arithmetic
import Questionnaire.Expression.EvalError
import Questionnaire.Value.Basic

/-!
What operators and functions compute.
-/

namespace Questionnaire

def orFault {α : Type} (fault : ArithmeticFault) : Option α → Except EvalError α
  | some a => .ok a
  | none => .error (.arithmetic fault)

namespace Decimal

def compute (op : ArithmeticOperator) (a b : Decimal) : Except EvalError Decimal :=
  match op with
  | .add => orFault (.overflow "addition") (a.add? b)
  | .sub => orFault (.overflow "subtraction") (a.sub? b)
  | .mul => orFault (.overflow "multiplication") (a.mul? b)
  | .div =>
    if b.isZero then .error (.arithmetic .divisionByZero)
    else orFault (.overflow "division") (a.div? b)

def places? (digits : Decimal) : Option { n : Nat // n ≤ maxScale } :=
  match digits.toInt? with
  | some n => if h : n.toNat ≤ maxScale ∧ digits.negative = false then some ⟨n.toNat, h.1⟩ else none
  | none => none

/-- The number rounded to so many places, a half to the even neighbour. -/
def roundTo (d digits : Decimal) : Except EvalError Decimal :=
  match digits.places? with
  | some ⟨n, h⟩ => .ok (d.round n h)
  | none => .error (.arithmetic (.precision digits.toText))

/-- The smaller number; of two equal ones the first. -/
def min (a b : Decimal) : Decimal := if a.compare b = .gt then b else a

/-- The larger number; of two equal ones the second. -/
def max (a b : Decimal) : Decimal := if a.compare b = .gt then a else b

end Decimal

/-- A span multiplied or divided by a number, to whole seconds. -/
def TimeSpan.scale (t : TimeSpan) (factor : Decimal) (op : ArithmeticOperator) :
    Except EvalError TimeSpan := do
  let seconds ← orFault (.overflow "time span") (Decimal.ofInt? t.seconds)
  let scaled ← seconds.compute op factor
  orFault (.overflow "time span")
    (((scaled.round 0 (Nat.zero_le _)).toInt?).bind TimeSpan.ofSeconds?)

namespace Operator

/-- Sum, difference, product or quotient of numbers; other operators compute no number. -/
def computeNumber (op : Operator) (a b : Decimal) : Except EvalError Decimal :=
  match op with
  | arithmetic op => a.compute op b
  | op => .error (.type (.notArithmetic op))

def compareAs (op : Operator) (o : Ordering) : Except EvalError Bool :=
  match op with
  | eq => .ok (o == .eq)
  | ne => .ok (o != .eq)
  | order op => .ok (op.holds o)
  | op => .error (.type (.notComparison op))

end Operator

namespace Value

def compute (op : ArithmeticOperator) (a b : Value) : Except EvalError Value :=
  match op, a, b with
  | op, number a, number b => (a.compute op b).map number
  | .add, timeSpan a, timeSpan b => (orFault .dateRange (a.add? b)).map timeSpan
  | .sub, timeSpan a, timeSpan b => (orFault .dateRange (a.sub? b)).map timeSpan
  | .add, moment m, timeSpan t => (orFault .dateRange (m.addSeconds? t.seconds)).map moment
  | .add, timeSpan t, moment m => (orFault .dateRange (m.addSeconds? t.seconds)).map moment
  | .sub, moment m, timeSpan t => (orFault .dateRange (m.addSeconds? (-t.seconds))).map moment
  | .sub, moment a, moment b =>
    (orFault .dateRange (TimeSpan.ofSeconds? (Moment.secondsBetween b a))).map timeSpan
  | .mul, timeSpan t, number d => (t.scale d .mul).map timeSpan
  | .mul, number d, timeSpan t => (t.scale d .mul).map timeSpan
  | .div, timeSpan t, number d => (t.scale d .div).map timeSpan
  | op, a, b => .error (.type (.cannotCombine (.arithmetic op) a.type b.type))

/-- Equality of any two values: those of one type are the same answer, others have the same text. -/
def equals (a b : Value) : Bool :=
  if a.type = b.type then a.same b else a.toText == b.toText

def order? : Value → Value → Option Ordering
  | number a, number b => some (a.compare b)
  | moment a, moment b => some (a.compare b)
  | timeSpan a, timeSpan b => some (a.compare b)
  | _, _ => none

def compareBy (op : Operator) (a b : Value) : Except EvalError Bool :=
  match order? a b with
  | some o => op.compareAs o
  | none =>
    match op with
    | .eq => .ok (a.equals b)
    | .ne => .ok (!a.equals b)
    | op => .error (.type (.cannotOrder op a.type b.type))

end Value

end Questionnaire
