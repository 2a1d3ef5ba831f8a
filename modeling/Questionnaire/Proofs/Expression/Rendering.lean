import Questionnaire.Proofs.Expression.Parsing
import Questionnaire.Proofs.Expression.Scanning

/-!
Expressions that are written and read again.

`Expr.spelling` lists the tokens that an expression is written in. The text of an expression that
was read falls into these tokens, whatever follows it (`lexes_toText`), and the tokens are spelled
by a phrase of the same expression (`derives_spelling`). So the text is read as that expression:
`rendered_reads_back`.
-/

namespace Questionnaire

/-! ### The tokens of an expression -/

def UnaryOperator.token : UnaryOperator → Token
  | neg => .minus
  | not => .word "not"

def Operator.token : Operator → Token
  | arithmetic .add => .plus
  | arithmetic .sub => .minus
  | arithmetic .mul => .star
  | arithmetic .div => .slash
  | eq => .eq
  | ne => .ne
  | order .lt => .lt
  | order .le => .le
  | order .gt => .gt
  | order .ge => .ge
  | and => .word "and"
  | or => .word "or"

namespace Value

def token : Value → Token
  | boolean b => .word (booleanText b)
  | number d => .number d.normalize.toText
  | v => .string v.toText

/-- What one token can stand for. The sign of a number is a token of its own. -/
def IsLiteral : Value → Prop
  | boolean _ | text _ => True
  | number d => d.negative = false
  | _ => False

/-- A text without double quotes and backslashes. -/
def Quotable : Value → Prop
  | text s => '"' ∉ s.toList ∧ '\\' ∉ s.toList
  | _ => True

instance : (v : Value) → Decidable v.Quotable
  | text s => inferInstanceAs (Decidable ('"' ∉ s.toList ∧ '\\' ∉ s.toList))
  | boolean _ | number _ | moment _ | timeSpan _ | period _ | list .. | unknown => .isTrue trivial

end Value

namespace Expr

def spelling : Expr → List Token
  | literal v _ => [v.token]
  | ref name _ => [.word name]
  | unary op e _ => .leftParen :: op.token :: (e.spelling ++ [.rightParen])
  | binary op l r _ => .leftParen :: (l.spelling ++ op.token :: (r.spelling ++ [.rightParen]))
  | call1 f a _ => .word f.name :: .leftParen :: (a.spelling ++ [.rightParen])
  | call2 f a b _ =>
    .word f.name :: .leftParen :: (a.spelling ++ .comma :: (b.spelling ++ [.rightParen]))

def literals : Expr → List Value
  | literal v _ => [v]
  | ref _ _ => []
  | unary _ e _ => e.literals
  | binary _ l r _ => l.literals ++ r.literals
  | call1 _ a _ => a.literals
  | call2 _ a b _ => a.literals ++ b.literals

/-- The literals are such as a token stands for, and the names are words. -/
def IsSpelled : Expr → Prop
  | literal v _ => v.IsLiteral
  | ref name _ => Token.IsWord name.toList ∧ name ∉ Grammar.reserved
  | unary _ e _ => e.IsSpelled
  | binary _ l r _ => l.IsSpelled ∧ r.IsSpelled
  | call1 _ a _ => a.IsSpelled
  | call2 _ a b _ => a.IsSpelled ∧ b.IsSpelled

/-- The texts of an expression stand between quotes as they are. -/
def Quotable (e : Expr) : Prop := ∀ v ∈ e.literals, v.Quotable

instance (e : Expr) : Decidable e.Quotable := List.decidableBAll _ e.literals

/-- The same expression, wherever its parts stand. Numbers are compared as numbers. -/
inductive Same : Expr → Expr → Prop
  | literal {v w : Value} {s s' : Span} (same : v.same w = true) :
      Same (.literal v s) (.literal w s')
  | ref {name : String} {s s' : Span} : Same (.ref name s) (.ref name s')
  | unary {op : UnaryOperator} {a b : Expr} {s s' : Span} (operand : Same a b) :
      Same (.unary op a s) (.unary op b s')
  | binary {op : Operator} {a b a' b' : Expr} {s s' : Span} (left : Same a a')
      (right : Same b b') : Same (.binary op a b s) (.binary op a' b' s')
  | call1 {f : Function1} {a b : Expr} {s s' : Span} (arg : Same a b) :
      Same (.call1 f a s) (.call1 f b s')
  | call2 {f : Function2} {a b a' b' : Expr} {s s' : Span} (first : Same a a')
      (second : Same b b') : Same (.call2 f a b s) (.call2 f a' b' s')

theorem Same.names_eq {e e' : Expr} (same : e.Same e') : e'.names = e.names := by
  induction same with
  | literal | ref => rfl
  | unary _ ih | call1 _ ih => exact ih
  | binary _ _ left right | call2 _ _ left right => simp only [names, left, right]

end Expr

/-! ### Numbers -/

namespace Decimal

theorem normalize_negative {d : Decimal} (positive : d.negative = false) :
    d.normalize.negative = false := by
  unfold normalize
  split
  · rfl
  · exact positive

theorem isNumber_chars {d : Decimal} (positive : d.negative = false) : Token.IsNumber d.chars := by
  have plain : d.chars = placePoint (digits d.coefficient) d.scale := by
    rw [chars, positive]
    rfl
  rw [plain]
  cases d.scale with
  | zero =>
    rw [placePoint_zero]
    exact ⟨_, isDigits_digits _, digits_ne_nil, .inl rfl⟩
  | succ scale =>
    obtain ⟨whole, fraction, text, left, right, given, length, -⟩ :=
      placePoint_succ d.coefficient scale
    have more : fraction ≠ [] := by
      rintro rfl
      cases length
    exact ⟨whole, left, given, .inr ⟨fraction, right, more, text⟩⟩

theorem negative_of_isNumber {d : Decimal} {cs : List Char} (isNumber : Token.IsNumber cs)
    (h : read cs = .ok d) : d.negative = false := by
  have plain : ∀ c ∈ cs, c.isDigit = true ∨ c = '.' ∨ c = '-' := by
    intro c member
    exact (isNumber.mem member).imp_right .inl
  obtain ⟨first, others, rfl, digit⟩ := isNumber.cons
  rw [read_of_plain plain, readPlain_cons digit] at h
  exact readDigits_positive h

end Decimal

namespace Grammar

open Questionnaire.Expr (Tokens)

variable {c : Chain} {u : Leading} {l k : Level} {op : Operator} {v : Value} {e e' : Expr}
  {ts ts' rest : Tokens} {t m : LocatedToken}

/-! ### Expressions that were read -/

theorem isLiteral_of_value? (proper : t.token.Proper) (means : value? t.token = some v) :
    v.IsLiteral := by
  unfold value? at means
  split at means
  · rename_i digits found
    obtain ⟨d, read, rfl⟩ := ok_of_map_toOption means
    rw [found] at proper
    exact Decimal.negative_of_isNumber proper read
  · cases means
    trivial
  · split at means
    · cases means
      trivial
    · split at means
      · cases means
        trivial
      · cases means
  · cases means

mutual

theorem Phrase.isSpelled {l : Level} (d : Phrase l) (proper : ∀ t ∈ d.tokens, t.token.Proper) :
    d.tree.IsSpelled := by
  match d with
  | .chained first more =>
    rw [Phrase.tokens, List.forall_mem_append] at proper
    exact more.isSpelled (first.isSpelled proper.1) proper.2
  | .marked mark spelled body =>
    rw [Phrase.tokens, List.forall_mem_cons] at proper
    exact body.isSpelled proper.2
  | .bare body => exact body.isSpelled proper
  | .single only => exact only.isSpelled proper
  | .compared left mark op spelled right =>
    rw [Phrase.tokens, List.forall_mem_append, List.forall_mem_cons] at proper
    exact ⟨left.isSpelled proper.1, right.isSpelled proper.2.2⟩
  | .literal token value means =>
    exact isLiteral_of_value? (proper token List.mem_cons_self) means
  | .name word span free => exact ⟨proper ⟨.word word, span⟩ List.mem_cons_self, free⟩
  | .parenthesized opened closed inner =>
    refine inner.isSpelled fun t member => proper t ?_
    simp [Phrase.tokens, member]
  | .call1 f named opened closed arg =>
    refine arg.isSpelled fun t member => proper t ?_
    simp [Phrase.tokens, member]
  | .call2 f named opened comma closed first second =>
    constructor
    · refine first.isSpelled fun t member => proper t ?_
      simp [Phrase.tokens, member]
    · refine second.isSpelled fun t member => proper t ?_
      simp [Phrase.tokens, member]

theorem Links.isSpelled {c : Chain} (links : Links c) {left : Expr} (start : left.IsSpelled)
    (proper : ∀ t ∈ links.tokens, t.token.Proper) : (links.tree left).IsSpelled := by
  match links with
  | .nil => exact start
  | .cons mark op spelled operand more =>
    rw [Links.tokens, List.cons_append, List.forall_mem_cons, List.forall_mem_append] at proper
    exact more.isSpelled ⟨start, operand.isSpelled proper.2.1⟩ proper.2.2

end

/-! ### Phrases that were written -/

/-- Some phrase of the level spells the tokens and stands for the expression. -/
def Derives (l : Level) (ts : Tokens) (e : Expr) : Prop := ∃ d : Phrase l, d.tokens = ts ∧ d.tree = e

theorem rank_injective (same : l.rank = k.rank) : l = k := by
  rcases l with (_ | _ | _ | _) | (_ | _) | _ | _ <;>
    rcases k with (_ | _ | _ | _) | (_ | _) | _ | _ <;> first
      | rfl
      | cases same

theorem Derives.looser (derived : Derives l ts e) (k : Level) (loose : l.rank ≤ k.rank) :
    Derives k ts e := by
  by_cases same : l.rank = k.rank
  · exact rank_injective same ▸ derived
  · match k with
    | .atom => exact absurd (Nat.le_zero.mp loose) same
    | .chain c =>
      have tighter := rank_operand c
      obtain ⟨d, rfl, rfl⟩ := derived.looser c.operand (by omega)
      exact ⟨.chained d .nil, by simp [Phrase.tokens, Links.tokens], rfl⟩
    | .leading u =>
      have tighter := rank_leading_operand u
      obtain ⟨d, rfl, rfl⟩ := derived.looser u.operand (by omega)
      exact ⟨.bare d, rfl, rfl⟩
    | .comparison =>
      have tighter : (Level.chain .sum).rank + 1 = Level.comparison.rank := rfl
      obtain ⟨d, rfl, rfl⟩ := derived.looser (.chain .sum) (by omega)
      exact ⟨.single d, rfl, rfl⟩
termination_by k.rank

theorem Derives.chain {a b : Expr} (left : Derives c.operand ts a)
    (spelled : (m.token, op) ∈ c.operators) (right : Derives c.operand ts' b) :
    Derives (.chain c) (ts ++ m :: ts') (.join op a b) := by
  obtain ⟨first, rfl, rfl⟩ := left
  obtain ⟨second, rfl, rfl⟩ := right
  exact ⟨.chained first (.cons m op spelled second .nil), by simp [Phrase.tokens, Links.tokens], rfl⟩

theorem Derives.compared {a b : Expr} (left : Derives (.chain .sum) ts a)
    (spelled : (m.token, op) ∈ comparisons) (right : Derives (.chain .sum) ts' b) :
    Derives .comparison (ts ++ m :: ts') (.join op a b) := by
  obtain ⟨first, rfl, rfl⟩ := left
  obtain ⟨second, rfl, rfl⟩ := right
  exact ⟨.compared first m op spelled second, rfl, rfl⟩

theorem operator_level (op : Operator) :
    (∃ c : Chain, (op.token, op) ∈ c.operators) ∨ (op.token, op) ∈ comparisons := by
  match op with
  | .arithmetic .add | .arithmetic .sub => exact .inl ⟨.sum, by decide⟩
  | .arithmetic .mul | .arithmetic .div => exact .inl ⟨.product, by decide⟩
  | .and => exact .inl ⟨.conjunction, by decide⟩
  | .or => exact .inl ⟨.disjunction, by decide⟩
  | .eq | .ne | .order .lt | .order .le | .order .gt | .order .ge => exact .inr (by decide)

theorem token_mem_marks (u : Leading) : u.operator.token ∈ u.marks := by
  cases u <;> decide

theorem exists_leading (op : UnaryOperator) : ∃ u : Leading, u.operator = op := by
  cases op with
  | neg => exact ⟨.sign, rfl⟩
  | not => exact ⟨.negation, rfl⟩

theorem Derives.join {a b : Expr} (left : Derives .atom ts a) (spelled : m.token = op.token)
    (right : Derives .atom ts' b) :
    Derives (.chain .disjunction) (ts ++ m :: ts') (.join op a b) := by
  rcases operator_level op with ⟨c, joins⟩ | compares
  · have joined := (left.looser c.operand (Nat.zero_le _)).chain (spelled ▸ joins)
      (right.looser c.operand (Nat.zero_le _))
    exact joined.looser _ (Nat.le_of_lt_succ (rank_lt _))
  · have compared := (left.looser (.chain .sum) (Nat.zero_le _)).compared (spelled ▸ compares)
      (right.looser (.chain .sum) (Nat.zero_le _))
    exact compared.looser _ (by decide)

theorem Derives.unary {op : UnaryOperator} (operand : Derives .atom ts e)
    (spelled : m.token = op.token) :
    Derives (.chain .disjunction) (m :: ts) (.unary op e (m.span.join e.span)) := by
  obtain ⟨u, rfl⟩ := exists_leading op
  obtain ⟨body, rfl, rfl⟩ := operand.looser (.leading u) (Nat.zero_le _)
  have marked : Derives (.leading u) (m :: body.tokens)
      (.unary u.operator body.tree (m.span.join body.tree.span)) :=
    ⟨.marked m (spelled ▸ token_mem_marks u) body, rfl, rfl⟩
  exact marked.looser _ (Nat.le_of_lt_succ (rank_lt _))

section

variable {opened comma closed named : LocatedToken} (opens : opened.token = .leftParen)
  (closes : closed.token = .rightParen)

include opens closes

theorem Derives.parenthesized (inner : Derives (.chain .disjunction) ts e) :
    Derives .atom (opened :: (ts ++ [closed])) e := by
  obtain ⟨_, opened⟩ := opened
  obtain ⟨_, closed⟩ := closed
  cases opens
  cases closes
  obtain ⟨d, rfl, rfl⟩ := inner
  exact ⟨.parenthesized opened closed d, rfl, rfl⟩

theorem Derives.call1 {f : Function1} (calls : named.token = .word f.name)
    (arg : Derives .atom ts e) :
    Derives .atom (named :: opened :: (ts ++ [closed]))
      (.call1 f e (named.span.join closed.span)) := by
  obtain ⟨_, named⟩ := named
  obtain ⟨_, opened⟩ := opened
  obtain ⟨_, closed⟩ := closed
  cases opens
  cases closes
  cases calls
  obtain ⟨d, rfl, rfl⟩ := arg.looser (.chain .disjunction) (Nat.zero_le _)
  exact ⟨.call1 f named opened closed d, rfl, rfl⟩

theorem Derives.call2 {f : Function2} {a b : Expr} (calls : named.token = .word f.name)
    (parts : comma.token = .comma) (first : Derives .atom ts a) (second : Derives .atom ts' b) :
    Derives .atom (named :: opened :: (ts ++ comma :: (ts' ++ [closed])))
      (.call2 f a b (named.span.join closed.span)) := by
  obtain ⟨_, named⟩ := named
  obtain ⟨_, opened⟩ := opened
  obtain ⟨_, comma⟩ := comma
  obtain ⟨_, closed⟩ := closed
  cases opens
  cases closes
  cases calls
  cases parts
  obtain ⟨d, rfl, rfl⟩ := first.looser (.chain .disjunction) (Nat.zero_le _)
  obtain ⟨d', rfl, rfl⟩ := second.looser (.chain .disjunction) (Nat.zero_le _)
  exact ⟨.call2 f named opened comma closed d d', by simp [Phrase.tokens], rfl⟩

end

theorem value?_token (literal : v.IsLiteral) : ∃ w, value? v.token = some w ∧ v.same w = true := by
  cases v with
  | boolean b => cases b <;> exact ⟨_, rfl, rfl⟩
  | text s => exact ⟨.text s, rfl, by simp [Value.same]⟩
  | number d =>
    have read : Decimal.ofText d.normalize.toText = .ok d.normalize := by
      rw [Decimal.ofText, Decimal.toText, String.toList_ofList]
      exact Decimal.read_chars d.normalize_isPlain
    refine ⟨.number d.normalize, ?_, d.same_normalize⟩
    rw [Value.token, value?, read]
    rfl
  | moment | timeSpan | period | list | unknown => exact absurd literal id

/-- Tokens that spell an expression derive it. -/
theorem derives_spelling (spelled : e.IsSpelled) (same : ts.map (·.token) = e.spelling) :
    ∃ e', Derives .atom ts e' ∧ e.Same e' := by
  induction e generalizing ts with
  | literal v span =>
    obtain ⟨t, rfl, token⟩ := List.map_eq_singleton_iff.mp same
    obtain ⟨w, means, same⟩ := value?_token spelled
    exact ⟨.literal w t.span, ⟨.literal t w (token ▸ means), rfl, rfl⟩, .literal same⟩
  | ref name span =>
    obtain ⟨t, rfl, token⟩ := List.map_eq_singleton_iff.mp same
    obtain ⟨token', span⟩ := t
    cases token
    exact ⟨.ref name span, ⟨.name name span spelled.2, rfl, rfl⟩, .ref⟩
  | unary op e span ih =>
    obtain ⟨opened, _, rfl, opens, same⟩ := List.map_eq_cons_iff.mp same
    obtain ⟨m, _, rfl, spells, same⟩ := List.map_eq_cons_iff.mp same
    obtain ⟨inside, _, rfl, sameInside, last⟩ := List.map_eq_append_iff.mp same
    obtain ⟨closed, rfl, closes⟩ := List.map_eq_singleton_iff.mp last
    obtain ⟨e', derived, operand⟩ := ih spelled sameInside
    exact ⟨_, (derived.unary spells).parenthesized opens closes, .unary operand⟩
  | binary op l r span left right =>
    obtain ⟨opened, _, rfl, opens, same⟩ := List.map_eq_cons_iff.mp same
    obtain ⟨before, _, rfl, sameLeft, same⟩ := List.map_eq_append_iff.mp same
    obtain ⟨m, _, rfl, spells, same⟩ := List.map_eq_cons_iff.mp same
    obtain ⟨after, _, rfl, sameRight, last⟩ := List.map_eq_append_iff.mp same
    obtain ⟨closed, rfl, closes⟩ := List.map_eq_singleton_iff.mp last
    obtain ⟨l', derivedLeft, sameLeft⟩ := left spelled.1 sameLeft
    obtain ⟨r', derivedRight, sameRight⟩ := right spelled.2 sameRight
    have derived := (derivedLeft.join spells derivedRight).parenthesized opens closes
    rw [List.append_assoc] at derived
    exact ⟨_, derived, .binary sameLeft sameRight⟩
  | call1 f a span ih =>
    obtain ⟨named, _, rfl, calls, same⟩ := List.map_eq_cons_iff.mp same
    obtain ⟨opened, _, rfl, opens, same⟩ := List.map_eq_cons_iff.mp same
    obtain ⟨inside, _, rfl, sameInside, last⟩ := List.map_eq_append_iff.mp same
    obtain ⟨closed, rfl, closes⟩ := List.map_eq_singleton_iff.mp last
    obtain ⟨a', derived, arg⟩ := ih spelled sameInside
    exact ⟨_, derived.call1 opens closes calls, .call1 arg⟩
  | call2 f a b span first second =>
    obtain ⟨named, _, rfl, calls, same⟩ := List.map_eq_cons_iff.mp same
    obtain ⟨opened, _, rfl, opens, same⟩ := List.map_eq_cons_iff.mp same
    obtain ⟨before, _, rfl, sameFirst, same⟩ := List.map_eq_append_iff.mp same
    obtain ⟨comma, _, rfl, parts, same⟩ := List.map_eq_cons_iff.mp same
    obtain ⟨after, _, rfl, sameSecond, last⟩ := List.map_eq_append_iff.mp same
    obtain ⟨closed, rfl, closes⟩ := List.map_eq_singleton_iff.mp last
    obtain ⟨a', derivedFirst, sameFirst⟩ := first spelled.1 sameFirst
    obtain ⟨b', derivedSecond, sameSecond⟩ := second spelled.2 sameSecond
    exact ⟨_, derivedFirst.call2 opens closes calls parts derivedSecond,
      .call2 sameFirst sameSecond⟩

end Grammar

namespace Expr

open Token LocatedToken

variable {e : Expr} {rest : List Char} {ts : List Token}

/-! ### The text of an expression -/

theorem lexes_open (more : Lexes rest ts) : Lexes ('(' :: rest) (.leftParen :: ts) :=
  .token rfl rfl more

theorem lexes_close (more : Lexes rest ts) : Lexes (')' :: rest) (.rightParen :: ts) :=
  .token rfl rfl more

theorem lexes_comma (more : Lexes rest ts) : Lexes (',' :: rest) (.comma :: ts) :=
  .token rfl rfl more

theorem lexes_space (more : Lexes rest ts) : Lexes (' ' :: rest) ts := .blank rfl more

theorem stops_space : Stops (' ' :: rest) := stops_cons rfl (by decide)

theorem stops_close : Stops (')' :: rest) := stops_cons rfl (by decide)

theorem lexes_operator (op : Operator) (more : Lexes rest ts) :
    Lexes (op.symbol.toList ++ ' ' :: rest) (op.token :: ts) := by
  match op with
  | .and | .or => exact .word (isWord_cons rfl rfl) stops_space (lexes_space more)
  | .arithmetic .add | .arithmetic .sub | .arithmetic .mul | .arithmetic .div | .eq | .ne
  | .order .lt | .order .le | .order .gt | .order .ge => exact .token rfl rfl (lexes_space more)

theorem lexes_literal {v : Value} (literal : v.IsLiteral) (quotable : v.Quotable)
    (stops : Stops rest) (more : Lexes rest ts) :
    Lexes ((literalText v).toList ++ rest) (v.token :: ts) := by
  cases v with
  | boolean b => cases b <;> exact .word (isWord_cons rfl rfl) stops more
  | number d =>
    have isNumber := Decimal.isNumber_chars (Decimal.normalize_negative literal)
    rw [← String.toList_ofList (l := d.normalize.chars)] at isNumber
    exact .number isNumber stops more
  | text s =>
    have written : (literalText (.text s)).toList ++ rest = '"' :: (s.toList ++ '"' :: rest) := by
      simp [literalText]
    rw [written]
    exact .string quotable more
  | moment | timeSpan | period | list | unknown => exact absurd literal id

theorem isWord_name1 (f : Function1) : IsWord f.name.toList := by
  cases f <;> exact isWord_cons rfl rfl

theorem isWord_name2 (f : Function2) : IsWord f.name.toList := by
  cases f <;> exact isWord_cons rfl rfl

theorem lexes_call {name : String} (isWord : IsWord name.toList) (more : Lexes rest ts) :
    Lexes (name.toList ++ '(' :: rest) (.word name :: .leftParen :: ts) :=
  .word isWord (stops_cons rfl (by decide)) (lexes_open more)

/-- The text of an expression falls into the tokens that spell it. -/
theorem lexes_toText (spelled : e.IsSpelled) (quotable : e.Quotable) (stops : Stops rest)
    (more : Lexes rest ts) : Lexes (e.toText.toList ++ rest) (e.spelling ++ ts) := by
  induction e generalizing rest ts with
  | literal v span => exact lexes_literal spelled (quotable v List.mem_cons_self) stops more
  | ref name span => exact .word spelled.1 stops more
  | unary op e span ih =>
    have inside := ih spelled quotable stops_close (lexes_close more)
    cases op with
    | neg =>
      have written : Lexes ('(' :: '-' :: (e.toText.toList ++ ')' :: rest))
          (.leftParen :: .minus :: (e.spelling ++ .rightParen :: ts)) :=
        lexes_open (.token rfl rfl inside)
      simpa [toText, spelling, UnaryOperator.token] using written
    | not =>
      have written : Lexes ('(' :: ("not".toList ++ ' ' :: (e.toText.toList ++ ')' :: rest)))
          (.leftParen :: .word "not" :: (e.spelling ++ .rightParen :: ts)) :=
        lexes_open (.word (isWord_cons rfl rfl) stops_space (lexes_space inside))
      simpa [toText, spelling, UnaryOperator.token] using written
  | binary op l r span left right =>
    have quotes : l.Quotable ∧ r.Quotable := List.forall_mem_append.mp quotable
    have last := right spelled.2 quotes.2 stops_close (lexes_close more)
    have first := left spelled.1 quotes.1 stops_space (lexes_space (lexes_operator op last))
    simpa [toText, spelling] using lexes_open first
  | call1 f a span ih =>
    have inside := ih spelled quotable stops_close (lexes_close more)
    simpa [toText, spelling] using lexes_call (isWord_name1 f) inside
  | call2 f a b span first second =>
    have quotes : a.Quotable ∧ b.Quotable := List.forall_mem_append.mp quotable
    have last := second spelled.2 quotes.2 stops_close (lexes_close more)
    have start := first spelled.1 quotes.1 (stops_cons rfl (by decide))
      (lexes_comma (lexes_space last))
    simpa [toText, spelling] using lexes_call (isWord_name2 f) start

end Expr

/-! ### Reading the text of an expression -/

namespace Formula

open Grammar

variable {text : String} {f : Formula}

theorem isSpelled_of_text (read : ofText text = .ok f) : f.root.IsSpelled := by
  obtain ⟨d, ⟨span, lexed⟩, rfl⟩ := ofText_ok.mp read
  have proper := LocatedToken.proper_of_text lexed
  rw [List.forall_mem_append] at proper
  exact d.isSpelled proper.1

/-- The text of an expression that was read is read as the same expression, with the same references
in the same order, unless a text in it has a quote or a backslash. -/
theorem rendered_reads_back (read : ofText text = .ok f) (quotable : f.root.Quotable) :
    ∃ g, ofText f.root.toText = .ok g ∧ f.root.Same g.root ∧ g.references = f.references := by
  have spelled := isSpelled_of_text read
  have lexes : LocatedToken.Lexes f.root.toText.toList f.root.spelling := by
    simpa using Expr.lexes_toText spelled quotable Token.stops_nil .nil
  obtain ⟨located, lexed, same⟩ := LocatedToken.ofText_iff_lexes.mp lexes
  obtain ⟨inside, _, rfl, sameInside, last⟩ := List.map_eq_append_iff.mp same
  obtain ⟨⟨_, span⟩, rfl, rfl⟩ := List.map_eq_singleton_iff.mp last
  obtain ⟨e, derived, alike⟩ := derives_spelling spelled sameInside
  obtain ⟨d, rfl, rfl⟩ := derived.looser (.chain .disjunction) (Nat.zero_le _)
  refine ⟨⟨f.root.toText, d.tree⟩, ofText_ok.mpr ⟨d, ⟨span, lexed⟩, rfl⟩, alike, ?_⟩
  have names : d.tree.names = f.root.names := alike.names_eq
  simp only [references, Expr.references, names]

/-- Parentheses that were left out are written, and so is the normal form of a number. -/
theorem rendered_reads_back_nested : ∃ f,
    ofText "not -größe*1.50 >= max(b, 2) or b = 'x y'" = .ok f ∧ f.root.Quotable ∧
      f.root.toText = "((not (((-größe) * 1.5) >= max(b, 2))) or (b = \"x y\"))" ∧
      ∃ g, ofText f.root.toText = .ok g ∧ f.root.Same g.root ∧ g.references = f.references := by
  have computed : (ofText "not -größe*1.50 >= max(b, 2) or b = 'x y'").toOption.map
      (fun f => (decide f.root.Quotable, f.root.toText)) =
        some (true, "((not (((-größe) * 1.5) >= max(b, 2))) or (b = \"x y\"))") := by
    decide +kernel
  obtain ⟨f, read, same⟩ := ok_of_map_toOption computed
  obtain ⟨quotable, written⟩ := Prod.mk.inj same
  have plain := of_decide_eq_true quotable
  exact ⟨f, read, plain, written, rendered_reads_back read plain⟩

end Formula

end Questionnaire
