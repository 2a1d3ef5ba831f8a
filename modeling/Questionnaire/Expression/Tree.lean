import Questionnaire.Expression.Operator
import Questionnaire.Source.Span
import Questionnaire.Value.Basic

/-!
Expression trees.

Every node knows the stretch of text that it was read from. `toText` writes a tree with parentheses
around every operator, and `references` lists the names that it reads.
-/

namespace Questionnaire

inductive Expr
  | literal (value : Value) (span : Span)
  | ref (name : String) (span : Span)
  | unary (op : UnaryOperator) (operand : Expr) (span : Span)
  | binary (op : Operator) (left right : Expr) (span : Span)
  | call1 (f : Function1) (arg : Expr) (span : Span)
  | call2 (f : Function2) (first second : Expr) (span : Span)
deriving DecidableEq, Inhabited

namespace Expr

def span : Expr → Span
  | literal _ s | ref _ s | unary _ _ s | binary _ _ _ s | call1 _ _ s | call2 _ _ _ s => s

/-- All names in an expression, from left to right, with repetitions. -/
def names : Expr → List String
  | literal _ _ => []
  | ref name _ => [name]
  | unary _ e _ => e.names
  | binary _ l r _ => l.names ++ r.names
  | call1 _ a _ => a.names
  | call2 _ a b _ => a.names ++ b.names

/-- The operator applied to two expressions, over the text of both. -/
def join (op : Operator) (left right : Expr) : Expr :=
  binary op left right (left.span.join right.span)

/-- The text of a literal; a text stands in quotes. -/
def literalText : Value → String
  | .text s => "\"" ++ s ++ "\""
  | v => v.toText

def toText : Expr → String
  | literal v _ => literalText v
  | ref name _ => name
  | unary .neg e _ => "(-" ++ e.toText ++ ")"
  | unary .not e _ => "(not " ++ e.toText ++ ")"
  | binary op l r _ => "(" ++ l.toText ++ " " ++ op.symbol ++ " " ++ r.toText ++ ")"
  | call1 f a _ => f.name ++ "(" ++ a.toText ++ ")"
  | call2 f a b _ => f.name ++ "(" ++ a.toText ++ ", " ++ b.toText ++ ")"

end Expr

/-- Adds a name to a list that does not have it. -/
def record (names : List String) (name : String) : List String :=
  if name ∈ names then names else names ++ [name]

/-- The distinct names of a list in the order in which they first come up. -/
def distinctNames (names : List String) : List String := names.foldl record []

def Expr.references (e : Expr) : List String := distinctNames e.names

structure Formula where
  text : String
  root : Expr
deriving DecidableEq, Inhabited

def Formula.references (f : Formula) : List String := f.root.references

end Questionnaire
