import Questionnaire.Text.Quoted

/-!
Tokens of expressions.
-/

namespace Questionnaire

inductive Token
  | word (s : String)
  | string (s : String)
  | number (s : String)
  | leftParen
  | rightParen
  | comma
  | plus
  | minus
  | star
  | slash
  | eq
  | ne
  | lt
  | le
  | gt
  | ge
  | andAnd
  | orOr
  | bang
  | eof
deriving DecidableEq, Repr, Inhabited

namespace Token

def kind : Token → String
  | word _ => "Word"
  | string _ => "Str"
  | number _ => "Number"
  | leftParen => "LParen"
  | rightParen => "RParen"
  | comma => "Comma"
  | plus => "Plus"
  | minus => "Minus"
  | star => "Star"
  | slash => "Slash"
  | eq => "Eq"
  | ne => "Neq"
  | lt => "Lt"
  | le => "Lte"
  | gt => "Gt"
  | ge => "Gte"
  | andAnd => "AndAnd"
  | orOr => "OrOr"
  | bang => "Bang"
  | eof => "Eof"

/-- The text that a token carries, if its kind alone does not tell it. -/
def content? : Token → Option String
  | word s | string s | number s => some s
  | _ => none

def describe (t : Token) : String :=
  match t.content? with
  | some s => t.kind ++ "(" ++ Text.quote s ++ ")"
  | none => t.kind

end Token

end Questionnaire
