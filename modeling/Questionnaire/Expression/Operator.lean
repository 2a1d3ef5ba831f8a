/-!
Operators and functions of expressions.
-/

namespace Questionnaire

inductive UnaryOperator
  | neg
  | not
deriving DecidableEq, Repr, Inhabited

inductive ArithmeticOperator
  | add
  | sub
  | mul
  | div
deriving DecidableEq, Repr, Inhabited

inductive OrderOperator
  | lt
  | le
  | gt
  | ge
deriving DecidableEq, Repr, Inhabited

inductive Operator
  | arithmetic (op : ArithmeticOperator)
  | eq
  | ne
  | order (op : OrderOperator)
  | and
  | or
deriving DecidableEq, Repr, Inhabited

inductive Function1
  | abs
  | round
deriving DecidableEq, Repr, Inhabited

inductive Function2
  | min
  | max
  | round
deriving DecidableEq, Repr, Inhabited

namespace ArithmeticOperator

def symbol : ArithmeticOperator → String
  | add => "+"
  | sub => "-"
  | mul => "*"
  | div => "/"

end ArithmeticOperator

namespace OrderOperator

def symbol : OrderOperator → String
  | lt => "<"
  | le => "<="
  | gt => ">"
  | ge => ">="

def holds : OrderOperator → Ordering → Bool
  | lt, o => o == .lt
  | le, o => o != .gt
  | gt, o => o == .gt
  | ge, o => o != .lt

end OrderOperator

namespace Operator

def symbol : Operator → String
  | arithmetic op => op.symbol
  | eq => "="
  | ne => "!="
  | order op => op.symbol
  | and => "and"
  | or => "or"

def all : List Operator :=
  [arithmetic .add, arithmetic .sub, arithmetic .mul, arithmetic .div, eq, ne, order .lt, order .le,
    order .gt, order .ge, and, or]

def ofSymbol? (s : String) : Option Operator := all.find? (·.symbol == s)

end Operator

def Function1.name : Function1 → String
  | abs => "abs"
  | round => "round"

def Function2.name : Function2 → String
  | min => "min"
  | max => "max"
  | round => "round"

end Questionnaire
