import Questionnaire.Expression.Lexer
import Questionnaire.Expression.Tree

/-!
Reading expressions.

Operators bind from loosest to tightest: `or`, `and`, `not`, comparisons, sums, products, the sign,
atoms. Each level is made of the level below it; an atom in parentheses and the arguments of a
function are read by `inner`, so that one unfolding of `expression` reads one level of nesting.
-/

namespace Questionnaire

namespace Expr

/-- The tokens that are left; the last of them is the end of the text. -/
abbrev Tokens := List LocatedToken

/-- A reader of expressions: an expression and the tokens after it. -/
abbrev Parser := Tokens → Except ExprError (Expr × Tokens)

def peek (ts : Tokens) : LocatedToken := ts.headD ⟨.eof, 0, 0⟩

/-- The tokens after the next one; the end of the text stays. -/
def advance : Tokens → Tokens
  | [] => []
  | [t] => [t]
  | _ :: ts => ts

def errorAt {α : Type} (ts : Tokens) (cause : ExprCause) : Except ExprError α :=
  .error ⟨cause, (peek ts).span⟩

def expect (wanted : Token) (ts : Tokens) : Except ExprError (Span × Tokens) :=
  if (peek ts).token = wanted then .ok ((peek ts).span, advance ts)
  else errorAt ts (.expected wanted (peek ts).token)

/-- Reads operands that are joined from left to right by operators of one level. -/
def chain (operator? : Token → Option Operator) (operand : Parser) : Nat → Expr → Parser
  | 0, left, ts => .ok (left, ts)
  | fuel + 1, left, ts =>
    match operator? (peek ts).token with
    | none => .ok (left, ts)
    | some op =>
      match operand (advance ts) with
      | .error e => .error e
      | .ok (right, rest) => chain operator? operand fuel (join op left right) rest

def level (operator? : Token → Option Operator) (operand : Parser) : Parser := fun ts =>
  match operand ts with
  | .error e => .error e
  | .ok (left, rest) => chain operator? operand rest.length left rest

def before (isOperator : Token → Bool) (op : UnaryOperator) (operand : Parser) : Nat → Parser
  | 0, ts => operand ts
  | fuel + 1, ts =>
    if isOperator (peek ts).token then
      match before isOperator op operand fuel (advance ts) with
      | .error e => .error e
      | .ok (e, rest) => .ok (unary op e ((peek ts).span.join e.span), rest)
    else operand ts

/-! ### Calls -/

def arguments (inner : Parser) : Nat → Tokens → Except ExprError (List Expr × Tokens)
  | 0, ts => errorAt ts .endOfExpression
  | fuel + 1, ts =>
    match inner ts with
    | .error e => .error e
    | .ok (first, rest) =>
      if (peek rest).token = .comma then
        (arguments inner fuel (advance rest)).map fun (others, rest) => (first :: others, rest)
      else .ok ([first], rest)

def arity? (name : String) : Option (Nat × Nat) :=
  if name = "min" ∨ name = "max" then some (2, 2)
  else if name = "abs" then some (1, 1)
  else if name = "round" then some (1, 2)
  else none

/-- The call of a function on its arguments, if there are as many as it takes. -/
def call? (name : String) (args : List Expr) (span : Span) : Option Expr :=
  match name, args with
  | "abs", [a] => some (call1 .abs a span)
  | "round", [a] => some (call1 .round a span)
  | "round", [a, b] => some (call2 .round a b span)
  | "min", [a, b] => some (call2 .min a b span)
  | "max", [a, b] => some (call2 .max a b span)
  | _, _ => none

def call (inner : Parser) (name : String) (nameSpan : Span) : Parser := fun ts =>
  match arity? name with
  | none => .error ⟨.unknownFunction name, nameSpan⟩
  | some (least, most) => do
    let (_, ts) ← expect .leftParen ts
    let (args, ts) ←
      if (peek ts).token = .rightParen then pure ([], ts) else arguments inner ts.length ts
    let (close, ts) ← expect .rightParen ts
    let span := nameSpan.join close
    match call? name args span with
    | some e => return (e, ts)
    | none => throw ⟨.argumentCount name least most args.length, span⟩

/-! ### Levels -/

def atom (inner : Parser) : Parser := fun ts =>
  let ⟨token, span⟩ := peek ts
  let rest := advance ts
  match token with
  | .number text =>
    match Decimal.ofText text with
    | .ok d => .ok (literal (.number d) span, rest)
    | .error reason => .error ⟨.badNumber text reason, span⟩
  | .string s => .ok (literal (.text s) span, rest)
  | .leftParen => do
    let (e, rest) ← inner rest
    let (_, rest) ← expect .rightParen rest
    return (e, rest)
  | .word w =>
    if w = "true" ∨ w = "ja" then .ok (literal (.boolean true) span, rest)
    else if w = "false" ∨ w = "nee" then .ok (literal (.boolean false) span, rest)
    else if w = "and" ∨ w = "or" ∨ w = "not" then .error ⟨.operandIsKeyword w, span⟩
    else if (peek rest).token = .leftParen then call inner w span rest
    else .ok (ref w span, rest)
  | .eof => .error ⟨.endOfExpression, span⟩
  | token => .error ⟨.expectedOperand token, span⟩

def signed (inner : Parser) : Parser := fun ts =>
  before (· == .minus) .neg (atom inner) ts.length ts

def productOperator? : Token → Option Operator
  | .star => some (.arithmetic .mul)
  | .slash => some (.arithmetic .div)
  | _ => none

def sumOperator? : Token → Option Operator
  | .plus => some (.arithmetic .add)
  | .minus => some (.arithmetic .sub)
  | _ => none

def comparisonOperator? : Token → Option Operator
  | .eq => some .eq
  | .ne => some .ne
  | .lt => some (.order .lt)
  | .le => some (.order .le)
  | .gt => some (.order .gt)
  | .ge => some (.order .ge)
  | _ => none

def andOperator? : Token → Option Operator
  | .andAnd => some .and
  | .word w => if w = "and" then some .and else none
  | _ => none

def orOperator? : Token → Option Operator
  | .orOr => some .or
  | .word w => if w = "or" then some .or else none
  | _ => none

def isNegation : Token → Bool
  | .bang => true
  | .word w => w == "not"
  | _ => false

def product (inner : Parser) : Parser := level productOperator? (signed inner)

def sum (inner : Parser) : Parser := level sumOperator? (product inner)

/-- Reads a comparison. Comparisons are not chained. -/
def comparison (inner : Parser) : Parser := fun ts =>
  match sum inner ts with
  | .error e => .error e
  | .ok (left, ts) =>
    match comparisonOperator? (peek ts).token with
    | none => .ok (left, ts)
    | some op =>
      match sum inner (advance ts) with
      | .error e => .error e
      | .ok (right, ts) =>
        if (comparisonOperator? (peek ts).token).isSome then errorAt ts .chainedComparison
        else .ok (join op left right, ts)

def negation (inner : Parser) : Parser := fun ts =>
  before isNegation .not (comparison inner) ts.length ts

def conjunction (inner : Parser) : Parser := level andOperator? (negation inner)

def disjunction (inner : Parser) : Parser := level orOperator? (conjunction inner)

/-- Reads an expression with at most `depth` levels of nesting. -/
def expression : (depth : Nat) → Parser
  | 0 => fun ts => errorAt ts .endOfExpression
  | depth + 1 => disjunction (expression depth)

def ofTokens (ts : Tokens) : Except ExprError Expr :=
  if (peek ts).token = .eof then .error ⟨.empty, 0, 0⟩
  else
    match expression (ts.length + 1) ts with
    | .error e => .error e
    | .ok (e, rest) =>
      if (peek rest).token = .eof then .ok e
      else errorAt rest (.afterExpression (peek rest).token)

end Expr

def Formula.ofText (text : String) : Except ExprError Formula := do
  let ts ← LocatedToken.ofText text
  let root ← Expr.ofTokens ts
  return ⟨text, root⟩

end Questionnaire
