import Questionnaire.Expression.Parser

/-!
The grammar of expressions.

A `Phrase l` is a derivation of level `l`: it has a token for each terminal and a phrase for each
part. `Phrase.tokens` is what it spells and `Phrase.tree` the expression that it stands for. A list
of tokens has at most one derivation, also when other tokens follow it: `Phrase.unique`.
-/

namespace Questionnaire

namespace Grammar

open Questionnaire.Expr (Tokens peek)

/-! ### Levels -/

/-- Levels with operators between any number of operands. -/
inductive Chain
  | disjunction
  | conjunction
  | sum
  | product

/-- Levels with operators in front of an operand. -/
inductive Leading
  | negation
  | sign

inductive Level
  | chain (c : Chain)
  | leading (u : Leading)
  | comparison
  | atom

def Chain.operand : Chain → Level
  | disjunction => .chain .conjunction
  | conjunction => .leading .negation
  | sum => .chain .product
  | product => .leading .sign

def Leading.operand : Leading → Level
  | negation => .comparison
  | sign => .atom

/-! ### Terminals -/

/-- The operators of a level, each with a token that spells it. -/
def Chain.operators : Chain → List (Token × Operator)
  | disjunction => [(.orOr, .or), (.word "or", .or)]
  | conjunction => [(.andAnd, .and), (.word "and", .and)]
  | sum => [(.plus, .arithmetic .add), (.minus, .arithmetic .sub)]
  | product => [(.star, .arithmetic .mul), (.slash, .arithmetic .div)]

def comparisons : List (Token × Operator) :=
  [(.eq, .eq), (.ne, .ne), (.lt, .order .lt), (.le, .order .le), (.gt, .order .gt),
    (.ge, .order .ge)]

def Leading.operator : Leading → UnaryOperator
  | negation => .not
  | sign => .neg

def Leading.marks : Leading → List Token
  | negation => [.bang, .word "not"]
  | sign => [.minus]

def value? : Token → Option Value
  | .number digits => (Decimal.ofText digits).toOption.map .number
  | .string s => some (.text s)
  | .word w =>
    if w = "true" ∨ w = "ja" then some (.boolean true)
    else if w = "false" ∨ w = "nee" then some (.boolean false)
    else none
  | _ => none

/-- The words that name no parameter. -/
def reserved : List String := ["and", "or", "not", "true", "ja", "false", "nee"]

/-! ### Derivations -/

mutual

inductive Phrase : Level → Type
  | chained {c : Chain} (first : Phrase c.operand) (more : Links c) : Phrase (.chain c)
  | marked {u : Leading} (mark : LocatedToken) (spelled : mark.token ∈ u.marks)
      (body : Phrase (.leading u)) : Phrase (.leading u)
  | bare {u : Leading} (body : Phrase u.operand) : Phrase (.leading u)
  | single (only : Phrase (.chain .sum)) : Phrase .comparison
  | compared (left : Phrase (.chain .sum)) (mark : LocatedToken) (op : Operator)
      (spelled : (mark.token, op) ∈ comparisons) (right : Phrase (.chain .sum)) : Phrase .comparison
  | literal (token : LocatedToken) (value : Value) (means : value? token.token = some value) :
      Phrase .atom
  | name (word : String) (span : Span) (free : word ∉ reserved) : Phrase .atom
  | parenthesized (opened closed : Span) (inner : Phrase (.chain .disjunction)) : Phrase .atom
  | call1 (f : Function1) (named opened closed : Span) (arg : Phrase (.chain .disjunction)) :
      Phrase .atom
  | call2 (f : Function2) (named opened comma closed : Span)
      (first second : Phrase (.chain .disjunction)) : Phrase .atom

/-- The operators and operands that follow the first operand of a level. -/
inductive Links : Chain → Type
  | nil {c : Chain} : Links c
  | cons {c : Chain} (mark : LocatedToken) (op : Operator)
      (spelled : (mark.token, op) ∈ c.operators) (operand : Phrase c.operand) (more : Links c) :
      Links c

end

mutual

def Phrase.tokens {l : Level} : Phrase l → Tokens
  | .chained first more => first.tokens ++ more.tokens
  | .marked mark _ body => mark :: body.tokens
  | .bare body => body.tokens
  | .single only => only.tokens
  | .compared left mark _ _ right => left.tokens ++ mark :: right.tokens
  | .literal token _ _ => [token]
  | .name word span _ => [⟨.word word, span⟩]
  | .parenthesized opened closed inner =>
    ⟨.leftParen, opened⟩ :: inner.tokens ++ [⟨.rightParen, closed⟩]
  | .call1 f named opened closed arg =>
    ⟨.word f.name, named⟩ :: ⟨.leftParen, opened⟩ :: arg.tokens ++ [⟨.rightParen, closed⟩]
  | .call2 f named opened comma closed first second =>
    ⟨.word f.name, named⟩ :: ⟨.leftParen, opened⟩ :: first.tokens ++
      ⟨.comma, comma⟩ :: second.tokens ++ [⟨.rightParen, closed⟩]

def Links.tokens {c : Chain} : Links c → Tokens
  | .nil => []
  | .cons mark _ _ operand more => mark :: operand.tokens ++ more.tokens

end

section

variable {c : Chain} (rest : Tokens)

@[simp] theorem Phrase.chained_append (first : Phrase c.operand) (more : Links c) :
    (Phrase.chained first more).tokens ++ rest = first.tokens ++ (more.tokens ++ rest) := by
  rw [tokens, List.append_assoc]

@[simp] theorem Phrase.compared_append (left : Phrase (.chain .sum)) (mark : LocatedToken)
    (op : Operator) (spelled : (mark.token, op) ∈ comparisons) (right : Phrase (.chain .sum)) :
    (Phrase.compared left mark op spelled right).tokens ++ rest =
      left.tokens ++ mark :: (right.tokens ++ rest) := by
  rw [tokens, List.append_assoc, List.cons_append]

@[simp] theorem Phrase.parenthesized_append (opened closed : Span)
    (inner : Phrase (.chain .disjunction)) :
    (Phrase.parenthesized opened closed inner).tokens ++ rest =
      ⟨.leftParen, opened⟩ :: (inner.tokens ++ ⟨.rightParen, closed⟩ :: rest) := by
  simp [tokens]

@[simp] theorem Phrase.call1_append (f : Function1) (named opened closed : Span)
    (arg : Phrase (.chain .disjunction)) :
    (Phrase.call1 f named opened closed arg).tokens ++ rest =
      ⟨.word f.name, named⟩ :: ⟨.leftParen, opened⟩ ::
        (arg.tokens ++ ⟨.rightParen, closed⟩ :: rest) := by
  simp [tokens]

@[simp] theorem Phrase.call2_append (f : Function2) (named opened comma closed : Span)
    (first second : Phrase (.chain .disjunction)) :
    (Phrase.call2 f named opened comma closed first second).tokens ++ rest =
      ⟨.word f.name, named⟩ :: ⟨.leftParen, opened⟩ ::
        (first.tokens ++ ⟨.comma, comma⟩ :: (second.tokens ++ ⟨.rightParen, closed⟩ :: rest)) := by
  simp [tokens]

@[simp] theorem Links.cons_append (mark : LocatedToken) (op : Operator)
    (spelled : (mark.token, op) ∈ c.operators) (operand : Phrase c.operand) (more : Links c) :
    (Links.cons mark op spelled operand more).tokens ++ rest =
      mark :: (operand.tokens ++ (more.tokens ++ rest)) := by
  simp [tokens]

end

mutual

def Phrase.tree {l : Level} : Phrase l → Expr
  | .chained first more => more.tree first.tree
  | .marked (u := u) mark _ body => .unary u.operator body.tree (mark.span.join body.tree.span)
  | .bare body => body.tree
  | .single only => only.tree
  | .compared left _ op _ right => .join op left.tree right.tree
  | .literal token value _ => .literal value token.span
  | .name word span _ => .ref word span
  | .parenthesized _ _ inner => inner.tree
  | .call1 f named _ closed arg => .call1 f arg.tree (named.join closed)
  | .call2 f named _ _ closed first second => .call2 f first.tree second.tree (named.join closed)

/-- Joins operands to a first one, from left to right. -/
def Links.tree {c : Chain} : Links c → Expr → Expr
  | .nil, left => left
  | .cons _ op _ operand more, left => more.tree (.join op left operand.tree)

end

/-! ### Binding -/

def Level.rank : Level → Nat
  | .atom => 0
  | .leading .sign => 1
  | .chain .product => 2
  | .chain .sum => 3
  | .comparison => 4
  | .leading .negation => 5
  | .chain .conjunction => 6
  | .chain .disjunction => 7

/-- The rank of the tightest level with phrases that begin with the token. -/
def opens : Token → Nat
  | .number _ | .string _ | .leftParen => 0
  | .minus => 1
  | .bang => 5
  | .word w => if w = "not" then 5 else if w = "and" ∨ w = "or" then 8 else 0
  | _ => 8

/-- The rank of the tightest level with phrases that go on with the token. -/
def joins : Token → Nat
  | .leftParen => 0
  | .star | .slash => 2
  | .plus | .minus => 3
  | .eq | .ne | .lt | .le | .gt | .ge => 4
  | .andAnd => 6
  | .orOr => 7
  | .word w => if w = "and" then 6 else if w = "or" then 7 else 8
  | _ => 8

/-- A phrase of the level goes no further when these tokens follow it. -/
def Ends (l : Level) (rest : Tokens) : Prop := l.rank < joins (peek rest).token

variable {c : Chain} {u : Leading} {l k : Level} {t : Token} {op op' : Operator} {v : Value}
  {rest rest' : Tokens}

theorem rank_operand (c : Chain) : c.operand.rank + 1 = (Level.chain c).rank := by
  cases c <;> rfl

theorem rank_leading_operand (u : Leading) : u.operand.rank + 1 = (Level.leading u).rank := by
  cases u <;> rfl

theorem rank_chain (c : Chain) : c.operand.rank < (Level.chain c).rank :=
  Nat.le_of_eq (rank_operand c)

theorem rank_leading (u : Leading) : u.operand.rank < (Level.leading u).rank :=
  Nat.le_of_eq (rank_leading_operand u)

theorem joins_operator (h : (t, op) ∈ c.operators) : joins t = (Level.chain c).rank := by
  cases c <;>
    simp only [Chain.operators, List.mem_cons, Prod.mk.injEq, List.not_mem_nil, or_false] at h <;>
    rcases h with ⟨rfl, -⟩ | ⟨rfl, -⟩ <;> simp [joins, Level.rank]

theorem joins_comparison (h : (t, op) ∈ comparisons) : joins t = Level.comparison.rank := by
  simp only [comparisons, List.mem_cons, Prod.mk.injEq, List.not_mem_nil, or_false] at h
  rcases h with ⟨rfl, -⟩ | ⟨rfl, -⟩ | ⟨rfl, -⟩ | ⟨rfl, -⟩ | ⟨rfl, -⟩ | ⟨rfl, -⟩ <;> rfl

theorem opens_mark (h : t ∈ u.marks) : opens t = (Level.leading u).rank := by
  cases u with
  | negation =>
    simp only [Leading.marks, List.mem_cons, List.not_mem_nil, or_false] at h
    rcases h with rfl | rfl <;> simp [opens, Level.rank]
  | sign =>
    obtain rfl := List.mem_singleton.mp h
    rfl

theorem operator_unique (h : (t, op) ∈ c.operators) (h' : (t, op') ∈ c.operators) : op = op' := by
  cases c <;>
    simp only [Chain.operators, List.mem_cons, Prod.mk.injEq, List.not_mem_nil, or_false] at h h' <;>
    grind

theorem comparison_unique (h : (t, op) ∈ comparisons) (h' : (t, op') ∈ comparisons) : op = op' := by
  simp only [comparisons, List.mem_cons, Prod.mk.injEq, List.not_mem_nil, or_false] at h h'
  grind

theorem opens_value (h : value? t = some v) : opens t = 0 := by
  unfold value? at h
  split at h <;> grind [opens]

theorem opens_name {w : String} (free : w ∉ reserved) : opens (.word w) = 0 := by
  simp only [reserved, List.mem_cons, not_or] at free
  simp [opens, free]

theorem free_name1 (f : Function1) : f.name ∉ reserved := by
  cases f <;> decide

theorem free_name2 (f : Function2) : f.name ∉ reserved := by
  cases f <;> decide

/-- A phrase begins with a token that none of the looser levels opens with. -/
theorem Phrase.head {l : Level} (d : Phrase l) :
    ∃ t ts, d.tokens = t :: ts ∧ opens t.token ≤ l.rank := by
  match d with
  | .chained (c := c) first more =>
    obtain ⟨t, ts, spelled, low⟩ := first.head
    have tighter := rank_chain c
    exact ⟨t, ts ++ more.tokens, by simp [tokens, spelled], by omega⟩
  | .marked mark spelled body => exact ⟨mark, body.tokens, rfl, Nat.le_of_eq (opens_mark spelled)⟩
  | .bare (u := u) body =>
    obtain ⟨t, ts, spelled, low⟩ := body.head
    have tighter := rank_leading u
    exact ⟨t, ts, spelled, by omega⟩
  | .single only =>
    obtain ⟨t, ts, spelled, low⟩ := only.head
    exact ⟨t, ts, spelled, Nat.le_trans low (by decide)⟩
  | .compared left mark op _ right =>
    obtain ⟨t, ts, spelled, low⟩ := left.head
    exact ⟨t, ts ++ mark :: right.tokens, by simp [tokens, spelled], Nat.le_trans low (by decide)⟩
  | .literal token _ means => exact ⟨token, [], rfl, Nat.le_of_eq (opens_value means)⟩
  | .name word span free => exact ⟨_, [], rfl, Nat.le_of_eq (opens_name free)⟩
  | .parenthesized .. => exact ⟨_, _, rfl, Nat.le_refl 0⟩
  | .call1 f .. => exact ⟨_, _, rfl, Nat.le_of_eq (opens_name (free_name1 f))⟩
  | .call2 f .. => exact ⟨_, _, rfl, Nat.le_of_eq (opens_name (free_name2 f))⟩

theorem rank_lt (l : Level) : l.rank < 8 := by
  match l with
  | .chain c => cases c <;> decide
  | .leading u => cases u <;> decide
  | .comparison | .atom => decide

theorem Phrase.opens_peek (d : Phrase l) (rest : Tokens) :
    opens (peek (d.tokens ++ rest)).token ≤ l.rank := by
  obtain ⟨t, ts, begun, low⟩ := d.head
  rw [begun]
  exact low

theorem Phrase.peek_ne (d : Phrase l) (nothing : opens t = 8) :
    (peek (d.tokens ++ rest)).token ≠ t := by
  rintro rfl
  have low := d.opens_peek rest
  have bounded := rank_lt l
  omega

/-- An operand does not begin with the operator in front of it. -/
theorem Phrase.not_mark (body : Phrase u.operand) :
    (peek (body.tokens ++ rest)).token ∉ u.marks := by
  intro marked
  have low := body.opens_peek rest
  have tighter := rank_leading u
  have same := opens_mark marked
  omega

/-! ### Unambiguity -/

theorem Ends.mono (h : Ends l rest) (le : k.rank ≤ l.rank) : Ends k rest :=
  Nat.lt_of_le_of_lt le h

theorem Ends.operand (h : Ends (.chain c) rest) : Ends c.operand rest :=
  h.mono (Nat.le_of_lt (rank_chain c))

theorem ends_of_joins {t : LocatedToken} (h : joins t.token = 8) : Ends l (t :: rest) := by
  have bounded : l.rank < joins t.token := h ▸ rank_lt l
  exact bounded

theorem ends_comparison {mark : LocatedToken} (h : (mark.token, op) ∈ comparisons) :
    Ends (.chain .sum) (mark :: rest) := by
  have loose : (Level.chain .sum).rank < joins mark.token := joins_comparison h ▸ by decide
  exact loose

theorem not_ends_comparison {mark : LocatedToken} (h : (mark.token, op) ∈ comparisons) :
    ¬Ends .comparison (mark :: rest) := by
  intro ends
  have loose : Level.comparison.rank < joins mark.token := ends
  exact Nat.lt_irrefl _ (joins_comparison h ▸ loose)

theorem not_ends_operator {mark : LocatedToken} (h : (mark.token, op) ∈ c.operators) :
    ¬Ends (.chain c) (mark :: rest) := by
  intro ends
  have loose : (Level.chain c).rank < joins mark.token := ends
  exact Nat.lt_irrefl _ (joins_operator h ▸ loose)

theorem not_opened (h : Ends .atom rest) : (peek rest).token ≠ .leftParen := by
  intro opened
  have joined : 0 < joins (peek rest).token := h
  rw [opened] at joined
  exact Nat.lt_irrefl 0 joined

/-- The first operand of a level ends where the next operator or the end of the level stands. -/
theorem Links.ends (more : Links c) (h : Ends (.chain c) rest) :
    Ends c.operand (more.tokens ++ rest) := by
  cases more with
  | nil => exact h.operand
  | cons mark op spelled operand more =>
    have loose : c.operand.rank < joins mark.token := joins_operator spelled ▸ rank_chain c
    exact loose

theorem value?_name {w : String} (free : w ∉ reserved) : value? (.word w) = none := by
  simp only [reserved, List.mem_cons, not_or] at free
  simp [value?, free]

theorem name1_injective {f g : Function1} (h : f.name = g.name) : f = g := by
  cases f <;> cases g <;> simp [Function1.name] at h ⊢

theorem name2_injective {f g : Function2} (h : f.name = g.name) : f = g := by
  cases f <;> cases g <;> simp [Function2.name] at h ⊢

theorem Phrase.eq_literal (d : Phrase .atom) {token : LocatedToken}
    (means : value? token.token = some v) (same : token :: rest = d.tokens ++ rest') :
    d = .literal token v means ∧ rest = rest' := by
  cases d with
  | literal other value means' =>
    obtain ⟨rfl, rfl⟩ := List.cons.inj same
    obtain rfl : v = value := Option.some.inj (means.symm.trans means')
    exact ⟨rfl, rfl⟩
  | name w span free =>
    obtain ⟨rfl, -⟩ := List.cons.inj same
    exact nomatch (value?_name free).symm.trans means
  | parenthesized =>
    obtain ⟨rfl, -⟩ := List.cons.inj same
    exact nomatch means
  | call1 f =>
    obtain ⟨rfl, -⟩ := List.cons.inj same
    exact nomatch (value?_name (free_name1 f)).symm.trans means
  | call2 f =>
    obtain ⟨rfl, -⟩ := List.cons.inj same
    exact nomatch (value?_name (free_name2 f)).symm.trans means

theorem Phrase.eq_name (d : Phrase .atom) {w : String} {span : Span} (free : w ∉ reserved)
    (ends : Ends .atom rest) (same : ⟨.word w, span⟩ :: rest = d.tokens ++ rest') :
    d = .name w span free ∧ rest = rest' := by
  cases d with
  | literal token value means =>
    obtain ⟨rfl, -⟩ := List.cons.inj same
    exact nomatch (value?_name free).symm.trans means
  | name w' span' free' =>
    obtain ⟨spelled, rfl⟩ := List.cons.inj same
    cases spelled
    exact ⟨rfl, rfl⟩
  | parenthesized => cases (List.cons.inj same).1
  | call1 | call2 =>
    obtain ⟨-, rfl⟩ := List.cons.inj same
    exact absurd rfl (not_opened ends)

mutual

/-- Where two phrases of a level begin the same tokens and neither goes further, they are one. -/
theorem Phrase.unique {l : Level} (d d' : Phrase l) {rest rest' : Tokens}
    (same : d.tokens ++ rest = d'.tokens ++ rest') (ends : Ends l rest) (ends' : Ends l rest') :
    d = d' ∧ rest = rest' := by
  match d, d' with
  | .chained first more, .chained first' more' =>
    rw [Phrase.chained_append, Phrase.chained_append] at same
    obtain ⟨rfl, later⟩ := first.unique first' same (more.ends ends) (more'.ends ends')
    obtain ⟨rfl, rfl⟩ := more.unique more' later ends ends'
    exact ⟨rfl, rfl⟩
  | .marked mark _ body, .marked mark' _ body' =>
    obtain ⟨rfl, later⟩ := List.cons.inj same
    obtain ⟨rfl, rfl⟩ := body.unique body' later ends ends'
    exact ⟨rfl, rfl⟩
  | .bare (u := u) body, .bare body' =>
    have tighter := Nat.le_of_lt (rank_leading u)
    obtain ⟨rfl, rfl⟩ := body.unique body' same (ends.mono tighter) (ends'.mono tighter)
    exact ⟨rfl, rfl⟩
  | .marked mark spelled body, .bare body' =>
    have begun : peek (body'.tokens ++ rest') = mark := congrArg peek same.symm
    exact absurd (begun ▸ spelled) body'.not_mark
  | .bare body, .marked mark spelled body' =>
    have begun : peek (body.tokens ++ rest) = mark := congrArg peek same
    exact absurd (begun ▸ spelled) body.not_mark
  | .single only, .single only' =>
    obtain ⟨rfl, rfl⟩ := only.unique only' same (ends.mono (by decide)) (ends'.mono (by decide))
    exact ⟨rfl, rfl⟩
  | .compared left mark op spelled right, .compared left' mark' op' spelled' right' =>
    rw [Phrase.compared_append, Phrase.compared_append] at same
    obtain ⟨rfl, marked⟩ :=
      left.unique left' same (ends_comparison spelled) (ends_comparison spelled')
    obtain ⟨rfl, later⟩ := List.cons.inj marked
    obtain ⟨rfl, rfl⟩ := right.unique right' later (ends.mono (by decide)) (ends'.mono (by decide))
    obtain rfl := comparison_unique spelled spelled'
    exact ⟨rfl, rfl⟩
  | .single only, .compared left mark op spelled right =>
    rw [Phrase.compared_append] at same
    obtain ⟨-, rfl⟩ := only.unique left same (ends.mono (by decide)) (ends_comparison spelled)
    exact absurd ends (not_ends_comparison spelled)
  | .compared left mark op spelled right, .single only =>
    rw [Phrase.compared_append] at same
    obtain ⟨-, rfl⟩ := left.unique only same (ends_comparison spelled) (ends'.mono (by decide))
    exact absurd ends' (not_ends_comparison spelled)
  | .literal token value means, d' =>
    obtain ⟨rfl, rfl⟩ := d'.eq_literal means same
    exact ⟨rfl, rfl⟩
  | d, .literal token value means =>
    obtain ⟨rfl, rfl⟩ := d.eq_literal means same.symm
    exact ⟨rfl, rfl⟩
  | .name word span free, d' =>
    obtain ⟨rfl, rfl⟩ := d'.eq_name free ends same
    exact ⟨rfl, rfl⟩
  | d, .name word span free =>
    obtain ⟨rfl, rfl⟩ := d.eq_name free ends' same.symm
    exact ⟨rfl, rfl⟩
  | .parenthesized opened closed inner, .parenthesized opened' closed' inner' =>
    simp only [Phrase.parenthesized_append, List.cons.injEq, LocatedToken.mk.injEq,
      true_and] at same
    obtain ⟨rfl, inside⟩ := same
    obtain ⟨rfl, after⟩ := inner.unique inner' inside (ends_of_joins rfl) (ends_of_joins rfl)
    cases after
    exact ⟨rfl, rfl⟩
  | .call1 f named opened closed arg, .call1 f' named' opened' closed' arg' =>
    simp only [Phrase.call1_append, List.cons.injEq, LocatedToken.mk.injEq, Token.word.injEq,
      true_and] at same
    obtain ⟨⟨spelled, rfl⟩, rfl, inside⟩ := same
    obtain ⟨rfl, after⟩ := arg.unique arg' inside (ends_of_joins rfl) (ends_of_joins rfl)
    obtain rfl := name1_injective spelled
    cases after
    exact ⟨rfl, rfl⟩
  | .call2 f named opened comma closed first second,
    .call2 f' named' opened' comma' closed' first' second' =>
    simp only [Phrase.call2_append, List.cons.injEq, LocatedToken.mk.injEq, Token.word.injEq,
      true_and] at same
    obtain ⟨⟨spelled, rfl⟩, rfl, inside⟩ := same
    obtain ⟨rfl, between⟩ := first.unique first' inside (ends_of_joins rfl) (ends_of_joins rfl)
    simp only [List.cons.injEq, LocatedToken.mk.injEq, true_and] at between
    obtain ⟨rfl, next⟩ := between
    obtain ⟨rfl, after⟩ := second.unique second' next (ends_of_joins rfl) (ends_of_joins rfl)
    obtain rfl := name2_injective spelled
    cases after
    exact ⟨rfl, rfl⟩
  -- The functions of one and of two arguments share a name; the comma tells them apart.
  | .call1 f named opened closed arg, .call2 f' named' opened' comma closed' first second =>
    simp only [Phrase.call1_append, Phrase.call2_append, List.cons.injEq] at same
    obtain ⟨-, after⟩ := arg.unique first same.2.2 (ends_of_joins rfl) (ends_of_joins rfl)
    cases after
  | .call2 f named opened comma closed first second, .call1 f' named' opened' closed' arg =>
    simp only [Phrase.call1_append, Phrase.call2_append, List.cons.injEq] at same
    obtain ⟨-, after⟩ := first.unique arg same.2.2 (ends_of_joins rfl) (ends_of_joins rfl)
    cases after
  | .parenthesized .., .call1 .. | .parenthesized .., .call2 ..
  | .call1 .., .parenthesized .. | .call2 .., .parenthesized .. => cases (List.cons.inj same).1

theorem Links.unique {c : Chain} (more more' : Links c) {rest rest' : Tokens}
    (same : more.tokens ++ rest = more'.tokens ++ rest') (ends : Ends (.chain c) rest)
    (ends' : Ends (.chain c) rest') : more = more' ∧ rest = rest' := by
  match more, more' with
  | .nil, .nil => exact ⟨rfl, same⟩
  | .nil, .cons mark op spelled operand more' =>
    have goesOn : rest = mark :: (operand.tokens ++ (more'.tokens ++ rest')) := by
      simpa [Links.tokens] using same
    exact absurd (goesOn ▸ ends) (not_ends_operator spelled)
  | .cons mark op spelled operand more, .nil =>
    have goesOn : rest' = mark :: (operand.tokens ++ (more.tokens ++ rest)) := by
      simpa [Links.tokens] using same.symm
    exact absurd (goesOn ▸ ends') (not_ends_operator spelled)
  | .cons mark op spelled operand more, .cons mark' op' spelled' operand' more' =>
    rw [Links.cons_append, Links.cons_append] at same
    obtain ⟨rfl, next⟩ := List.cons.inj same
    obtain ⟨rfl, later⟩ := operand.unique operand' next (more.ends ends) (more'.ends ends')
    obtain ⟨rfl, rfl⟩ := more.unique more' later ends ends'
    obtain rfl := operator_unique spelled spelled'
    exact ⟨rfl, rfl⟩

end

/-! ### Names and calls -/

mutual

/-- No name of the phrase stands before an opening parenthesis, where `rest` follows the phrase. -/
def Phrase.NamesApart {l : Level} : Phrase l → Tokens → Prop
  | .chained first more, rest => first.NamesApart (more.tokens ++ rest) ∧ more.NamesApart rest
  | .marked _ _ body, rest => body.NamesApart rest
  | .bare body, rest => body.NamesApart rest
  | .single only, rest => only.NamesApart rest
  | .compared left mark _ _ right, rest =>
    left.NamesApart (mark :: (right.tokens ++ rest)) ∧ right.NamesApart rest
  | .literal _ _ _, _ => True
  | .name _ _ _, rest => (peek rest).token ≠ .leftParen
  | .parenthesized _ closed inner, rest => inner.NamesApart (⟨.rightParen, closed⟩ :: rest)
  | .call1 _ _ _ closed arg, rest => arg.NamesApart (⟨.rightParen, closed⟩ :: rest)
  | .call2 _ _ _ comma closed first second, rest =>
    first.NamesApart (⟨.comma, comma⟩ :: (second.tokens ++ ⟨.rightParen, closed⟩ :: rest)) ∧
      second.NamesApart (⟨.rightParen, closed⟩ :: rest)

def Links.NamesApart {c : Chain} : Links c → Tokens → Prop
  | .nil, _ => True
  | .cons _ _ _ operand more, rest =>
    operand.NamesApart (more.tokens ++ rest) ∧ more.NamesApart rest

end

mutual

/-- Only the end of a phrase, an operator or a mark follows a name. -/
theorem Phrase.namesApart {l : Level} (d : Phrase l) {rest : Tokens} (ends : Ends l rest) :
    d.NamesApart rest := by
  match d with
  | .chained first more => exact ⟨first.namesApart (more.ends ends), more.namesApart ends⟩
  | .marked _ _ body => exact body.namesApart ends
  | .bare (u := u) body => exact body.namesApart (ends.mono (Nat.le_of_lt (rank_leading u)))
  | .single only => exact only.namesApart (ends.mono (by decide))
  | .compared left _ _ spelled right =>
    exact ⟨left.namesApart (ends_comparison spelled), right.namesApart (ends.mono (by decide))⟩
  | .literal .. => trivial
  | .name .. => exact not_opened ends
  | .parenthesized _ _ inner => exact inner.namesApart (ends_of_joins rfl)
  | .call1 _ _ _ _ arg => exact arg.namesApart (ends_of_joins rfl)
  | .call2 _ _ _ _ _ first second =>
    exact ⟨first.namesApart (ends_of_joins rfl), second.namesApart (ends_of_joins rfl)⟩

theorem Links.namesApart {c : Chain} (more : Links c) {rest : Tokens}
    (ends : Ends (.chain c) rest) : more.NamesApart rest := by
  match more with
  | .nil => trivial
  | .cons _ _ _ operand more => exact ⟨operand.namesApart (more.ends ends), more.namesApart ends⟩

end

end Grammar

end Questionnaire
