import Questionnaire.Proofs.Expression.Grammar
import Questionnaire.Proofs.Expression.Scanning
import Questionnaire.Proofs.Outcome

/-!
The parser reads the grammar.

`Level.reader` is the parser of a level. What it reads is spelled by a phrase of the level
(`reads_reader`), and it reads each phrase that goes no further (`Phrase.read`). With the
unambiguity of the grammar this says of a text which expression it is, if it is one:
`formula_iff_phrase`.
-/

namespace Questionnaire

namespace Grammar

open Questionnaire.Expr (Tokens Parser peek advance chain level before arguments call)

/-! ### Token lists -/

/-- A list of tokens that the end of the text closes, and that has it nowhere else. -/
inductive Ended : Tokens → Prop
  | last (span : Span) : Ended [⟨.eof, span⟩]
  | cons {t : LocatedToken} {ts : Tokens} (more : t.token ≠ .eof) (later : Ended ts) :
      Ended (t :: ts)

variable {c : Chain} {u : Leading} {l : Level} {t : LocatedToken} {op : Operator}
  {ts rest : Tokens} {inner operand : Parser} {e : Expr}

theorem Ended.ne_nil (h : Ended ts) : ts ≠ [] := by
  cases h <;> exact List.cons_ne_nil _ _

theorem advance_cons (h : ts ≠ []) : advance (t :: ts) = ts := by
  cases ts with
  | nil => exact absurd rfl h
  | cons => rfl

theorem Ended.next (h : Ended ts) (more : (peek ts).token ≠ .eof) :
    ts = peek ts :: advance ts ∧ Ended (advance ts) := by
  cases h with
  | last => exact absurd rfl more
  | cons _ later =>
    rw [advance_cons later.ne_nil]
    exact ⟨rfl, later⟩

theorem Ended.eq_last (h : Ended ts) (ended : (peek ts).token = .eof) :
    ∃ span, ts = [⟨.eof, span⟩] := by
  cases h with
  | last span => exact ⟨span, rfl⟩
  | cons more => exact absurd ended more

/-! #### The tokens of a text -/

theorem scan_ne_eof {first : Char} {cs raw after : List Char} {token : Token}
    (h : Token.scan first cs = .ok (token, raw, after)) : token ≠ .eof := by
  cases Token.scan_ok h with
  | string | number | word => nofun
  | sign _ _ found =>
    rintro rfl
    exact Token.signs_of_scanMark found rfl

theorem ended_of_split {length fuel offset : Nat} {cs : List Char}
    (h : LocatedToken.split length fuel offset cs = .ok ts) : Ended ts := by
  induction fuel generalizing offset cs ts with
  | zero =>
    cases h
    exact .last _
  | succ fuel ih =>
    cases cs with
    | nil =>
      cases h
      exact .last _
    | cons first cs =>
      unfold LocatedToken.split at h
      split at h
      · exact ih h
      · split at h
        · cases h
        · rename_i scanned
          obtain ⟨later, read, rfl⟩ := map_ok.mp h
          exact .cons (scan_ne_eof scanned) (ih read)

theorem ended_of_text {text : String} (h : LocatedToken.ofText text = .ok ts) : Ended ts :=
  ended_of_split h

/-! ### Readers of the levels -/

def Chain.operator? : Chain → Token → Option Operator
  | disjunction => Expr.orOperator?
  | conjunction => Expr.andOperator?
  | sum => Expr.sumOperator?
  | product => Expr.productOperator?

def Leading.isMark : Leading → Token → Bool
  | negation => Expr.isNegation
  | sign => (· == .minus)

def Level.reader (inner : Parser) : Level → Parser
  | .chain .disjunction => Expr.disjunction inner
  | .chain .conjunction => Expr.conjunction inner
  | .leading .negation => Expr.negation inner
  | .comparison => Expr.comparison inner
  | .chain .sum => Expr.sum inner
  | .chain .product => Expr.product inner
  | .leading .sign => Expr.signed inner
  | .atom => Expr.atom inner

theorem reader_chain (c : Chain) :
    Level.reader inner (.chain c) = level c.operator? (c.operand.reader inner) := by
  cases c <;> rfl

theorem reader_leading (u : Leading) (ts : Tokens) :
    Level.reader inner (.leading u) ts =
      before u.isMark u.operator (u.operand.reader inner) ts.length ts := by
  cases u <;> rfl

theorem operator?_eq_some {t : Token} : c.operator? t = some op ↔ (t, op) ∈ c.operators := by
  cases c <;> cases t <;>
    simp [Chain.operator?, Chain.operators, Expr.orOperator?, Expr.andOperator?,
      Expr.sumOperator?, Expr.productOperator?, eq_comm]

theorem isMark_iff {t : Token} : u.isMark t = true ↔ t ∈ u.marks := by
  cases u <;> cases t <;> simp [Leading.isMark, Leading.marks, Expr.isNegation]

theorem comparisonOperator?_eq_some {t : Token} :
    Expr.comparisonOperator? t = some op ↔ (t, op) ∈ comparisons := by
  cases t <;> simp [Expr.comparisonOperator?, comparisons, eq_comm]

theorem operator_ne_eof {t : Token} (h : (t, op) ∈ c.operators) : t ≠ .eof := by
  rintro rfl
  cases c <;> simp [Chain.operators] at h

theorem comparison_ne_eof {t : Token} (h : (t, op) ∈ comparisons) : t ≠ .eof := by
  rintro rfl
  simp [comparisons] at h

theorem mark_ne_eof {t : Token} (h : t ∈ u.marks) : t ≠ .eof := by
  rintro rfl
  cases u <;> simp [Leading.marks] at h

/-! ### Soundness -/

/-- A parser that reads phrases of the level only. -/
def Reads (l : Level) (p : Parser) : Prop :=
  ∀ ⦃ts e rest⦄, Ended ts → p ts = .ok (e, rest) →
    Ended rest ∧ ∃ d : Phrase l, ts = d.tokens ++ rest ∧ e = d.tree

theorem read_links (known : Reads c.operand operand) {fuel : Nat} {left : Expr} (ended : Ended ts)
    (h : chain c.operator? operand fuel left ts = .ok (e, rest)) :
    Ended rest ∧ ∃ more : Links c, ts = more.tokens ++ rest ∧ e = more.tree left := by
  induction fuel generalizing left ts with
  | zero =>
    cases h
    exact ⟨ended, .nil, rfl, rfl⟩
  | succ fuel ih =>
    unfold chain at h
    split at h
    · cases h
      exact ⟨ended, .nil, rfl, rfl⟩
    · rename_i op found
      have spelled := operator?_eq_some.mp found
      obtain ⟨begun, ended⟩ := ended.next (operator_ne_eof spelled)
      split at h
      · cases h
      · rename_i right after read
        obtain ⟨ended, d, consumed, rfl⟩ := known ended read
        obtain ⟨ended, more, followed, rfl⟩ := ih ended h
        refine ⟨ended, .cons (peek ts) op spelled d more, ?_, rfl⟩
        rw [Links.cons_append, ← followed, ← consumed]
        exact begun

theorem reads_level (known : Reads c.operand operand) :
    Reads (.chain c) (level c.operator? operand) := by
  intro ts e rest ended h
  unfold level at h
  split at h
  · cases h
  · rename_i left after read
    obtain ⟨ended, first, consumed, rfl⟩ := known ended read
    obtain ⟨ended, more, followed, rfl⟩ := read_links known ended h
    refine ⟨ended, .chained first more, ?_, rfl⟩
    rw [Phrase.chained_append, ← followed]
    exact consumed

theorem reads_before (known : Reads u.operand operand) (fuel : Nat) :
    Reads (.leading u) (before u.isMark u.operator operand fuel) := by
  -- Without a mark the phrase is one of the operand.
  have operandOnly : Reads (.leading u) operand := by
    intro ts e rest ended h
    obtain ⟨ended, body, consumed, rfl⟩ := known ended h
    exact ⟨ended, .bare body, consumed, rfl⟩
  induction fuel with
  | zero => exact operandOnly
  | succ fuel ih =>
    intro ts e rest ended h
    unfold before at h
    split at h
    · rename_i marked
      have spelled := isMark_iff.mp marked
      obtain ⟨begun, ended⟩ := ended.next (mark_ne_eof spelled)
      split at h
      · cases h
      · rename_i below after read
        obtain ⟨ended, body, consumed, rfl⟩ := ih ended read
        cases h
        refine ⟨ended, .marked (peek ts) spelled body, ?_, rfl⟩
        rw [Phrase.tokens, List.cons_append, ← consumed]
        exact begun
    · exact operandOnly ended h

theorem reads_comparison (known : Reads (.chain .sum) (Expr.sum inner)) :
    Reads .comparison (Expr.comparison inner) := by
  intro ts e rest ended h
  unfold Expr.comparison at h
  split at h
  · cases h
  · rename_i left middle read
    obtain ⟨ended, first, consumed, rfl⟩ := known ended read
    split at h
    · cases h
      exact ⟨ended, .single first, consumed, rfl⟩
    · rename_i op found
      have spelled := comparisonOperator?_eq_some.mp found
      obtain ⟨begun, ended⟩ := ended.next (comparison_ne_eof spelled)
      split at h
      · cases h
      · rename_i right after readRight
        obtain ⟨ended, second, followed, rfl⟩ := known ended readRight
        split at h
        · cases h
        · cases h
          refine ⟨ended, .compared first (peek middle) op spelled second, ?_, rfl⟩
          rw [Phrase.compared_append, ← followed, ← begun]
          exact consumed

/-! #### Calls -/

theorem expect_ok {wanted : Token} {span : Span} (ended : Ended ts)
    (h : Expr.expect wanted ts = .ok (span, rest)) (inside : wanted ≠ .eof) :
    ts = ⟨wanted, span⟩ :: rest ∧ Ended rest := by
  unfold Expr.expect at h
  split at h
  · rename_i found
    cases h
    obtain ⟨begun, ended⟩ := ended.next (found ▸ inside)
    exact ⟨found ▸ begun, ended⟩
  · cases h

theorem read_arguments (known : Reads (.chain .disjunction) inner) {fuel : Nat} {args : List Expr}
    (ended : Ended ts) (h : arguments inner fuel ts = .ok (args, rest)) :
    ∃ (d : Phrase (.chain .disjunction)) (others : List Expr), args = d.tree :: others ∧
      (others = [] ∧ ts = d.tokens ++ rest ∧ Ended rest ∨
        ∃ (comma : Span) (after : Tokens) (fuel : Nat), ts = d.tokens ++ ⟨.comma, comma⟩ :: after ∧
          Ended after ∧ arguments inner fuel after = .ok (others, rest)) := by
  cases fuel with
  | zero => cases h
  | succ fuel =>
    unfold arguments at h
    split at h
    · cases h
    · rename_i first after read
      obtain ⟨ended, d, consumed, rfl⟩ := known ended read
      split at h
      · rename_i found
        obtain ⟨⟨others, _⟩, readMore, made⟩ := map_ok.mp h
        obtain ⟨begun, ended⟩ := ended.next (by simp [found])
        cases made
        refine ⟨d, others, rfl, .inr ⟨(peek after).span, advance after, fuel, ?_, ended, readMore⟩⟩
        rw [← found, ← begun]
        exact consumed
      · cases h
        exact ⟨d, [], rfl, .inl ⟨rfl, consumed, ended⟩⟩

theorem read_argument (known : Reads (.chain .disjunction) inner) {fuel : Nat} (ended : Ended ts)
    (h : arguments inner fuel ts = .ok ([e], rest)) :
    Ended rest ∧ ∃ d : Phrase (.chain .disjunction), ts = d.tokens ++ rest ∧ e = d.tree := by
  obtain ⟨d, others, made, next⟩ := read_arguments known ended h
  cases made
  rcases next with ⟨-, consumed, ended⟩ | ⟨_, _, _, -, ended, more⟩
  · exact ⟨ended, d, consumed, rfl⟩
  · obtain ⟨_, _, made, -⟩ := read_arguments known ended more
    cases made

/-- What a call went through: the parentheses, the arguments and the function. -/
theorem call_ok {name : String} {named : Span} (h : call inner name named ts = .ok (e, rest)) :
    ∃ (opened close : Span) (inside after : Tokens) (args : List Expr),
      Expr.expect .leftParen ts = .ok (opened, inside) ∧
      (args = [] ∨ arguments inner inside.length inside = .ok (args, after)) ∧
      Expr.expect .rightParen after = .ok (close, rest) ∧
      Expr.call? name args (named.join close) = some e := by
  unfold call at h
  split at h
  · cases h
  · obtain ⟨⟨opened, inside⟩, opening, h⟩ := bind_ok.mp h
    dsimp only at h
    split at h
    · obtain ⟨⟨args, after⟩, read, h⟩ := bind_ok.mp h
      obtain ⟨⟨close, _⟩, closing, h⟩ := bind_ok.mp h
      cases pure_ok.mp read
      split at h
      · cases pure_ok.mp h
        exact ⟨opened, close, inside, _, [], opening, .inl rfl, closing, ‹_›⟩
      · cases h
    · obtain ⟨⟨args, after⟩, read, h⟩ := bind_ok.mp h
      obtain ⟨⟨close, _⟩, closing, h⟩ := bind_ok.mp h
      split at h
      · cases pure_ok.mp h
        exact ⟨opened, close, inside, after, args, opening, .inr read, closing, ‹_›⟩
      · cases h

theorem call?_eq_some {name : String} {args : List Expr} {span : Span}
    (h : Expr.call? name args span = some e) :
    (∃ (f : Function1) (a : Expr), name = f.name ∧ args = [a] ∧ e = .call1 f a span) ∨
      ∃ (f : Function2) (a b : Expr), name = f.name ∧ args = [a, b] ∧ e = .call2 f a b span := by
  unfold Expr.call? at h
  split at h <;> cases h
  case h_1.refl a => exact .inl ⟨.abs, a, rfl, rfl, rfl⟩
  case h_2.refl a => exact .inl ⟨.round, a, rfl, rfl, rfl⟩
  case h_3.refl a b => exact .inr ⟨.round, a, b, rfl, rfl, rfl⟩
  case h_4.refl a b => exact .inr ⟨.min, a, b, rfl, rfl, rfl⟩
  case h_5.refl a b => exact .inr ⟨.max, a, b, rfl, rfl, rfl⟩

theorem reads_call (known : Reads (.chain .disjunction) inner) {name : String} {named : Span}
    (ended : Ended ts) (h : call inner name named ts = .ok (e, rest)) :
    Ended rest ∧ ∃ d : Phrase .atom, ⟨.word name, named⟩ :: ts = d.tokens ++ rest ∧ e = d.tree := by
  obtain ⟨opened, close, inside, after, args, opening, read, closing, made⟩ := call_ok h
  obtain ⟨rfl, within⟩ := expect_ok ended opening (by decide)
  rcases call?_eq_some made with ⟨f, a, rfl, rfl, rfl⟩ | ⟨f, a, b, rfl, rfl, rfl⟩
  · have readOne := read.resolve_left (List.cons_ne_nil _ _)
    obtain ⟨past, arg, rfl, rfl⟩ := read_argument known within readOne
    obtain ⟨rfl, later⟩ := expect_ok past closing (by decide)
    exact ⟨later, .call1 f named opened close arg, (Phrase.call1_append ..).symm, rfl⟩
  · have readTwo := read.resolve_left (List.cons_ne_nil _ _)
    obtain ⟨first, others, made, next⟩ := read_arguments known within readTwo
    obtain ⟨rfl, rfl⟩ := List.cons.inj made
    rcases next with ⟨none, -⟩ | ⟨comma, second, fuel, rfl, between, readMore⟩
    · cases none
    · obtain ⟨past, last, rfl, rfl⟩ := read_argument known between readMore
      obtain ⟨rfl, later⟩ := expect_ok past closing (by decide)
      exact ⟨later, .call2 f named opened comma close first last,
        (Phrase.call2_append ..).symm, rfl⟩

/-! #### Expressions -/

theorem read_literal {v : Value} (begun : ts = peek ts :: advance ts)
    (means : value? (peek ts).token = some v) :
    ∃ d : Phrase .atom, ts = d.tokens ++ advance ts ∧ .literal v (peek ts).span = d.tree :=
  ⟨.literal (peek ts) v means, begun, rfl⟩

theorem reads_atom (known : Reads (.chain .disjunction) inner) : Reads .atom (Expr.atom inner) := by
  intro ts e rest ended h
  unfold Expr.atom at h
  dsimp only at h
  have next : (peek ts).token ≠ .eof := by
    intro last
    rw [last] at h
    cases h
  obtain ⟨begun, later⟩ := ended.next next
  split at h
  · rename_i digits found
    split at h
    · rename_i d read
      cases h
      exact ⟨later, read_literal begun (by rw [found, value?, read]; rfl)⟩
    · cases h
  · rename_i s found
    cases h
    exact ⟨later, read_literal begun (by rw [found, value?])⟩
  · rename_i found
    obtain ⟨⟨inside, _⟩, read, h⟩ := bind_ok.mp h
    obtain ⟨⟨closed, _⟩, closing, h⟩ := bind_ok.mp h
    cases pure_ok.mp h
    obtain ⟨within, d, consumed, rfl⟩ := known later read
    obtain ⟨rfl, later⟩ := expect_ok within closing (by decide)
    refine ⟨later, .parenthesized (peek ts).span closed d, ?_, rfl⟩
    rw [Phrase.parenthesized_append, ← consumed, ← found]
    exact begun
  · rename_i w found
    have spelled : ts = ⟨.word w, (peek ts).span⟩ :: advance ts := found ▸ begun
    split at h
    · rename_i yes
      cases h
      exact ⟨later, read_literal begun (by rw [found, value?, if_pos yes])⟩
    · rename_i notYes
      split at h
      · rename_i no
        cases h
        exact ⟨later, read_literal begun (by rw [found, value?, if_neg notYes, if_pos no])⟩
      · rename_i notNo
        split at h
        · cases h
        · rename_i notKeyword
          split at h
          · rw [spelled]
            exact reads_call known later h
          · have free : w ∉ reserved := by
              simp only [reserved, List.mem_cons, List.not_mem_nil]
              tauto
            cases h
            exact ⟨later, .name w (peek ts).span free, spelled, rfl⟩
  · cases h
  · cases h

theorem reads_reader (known : Reads (.chain .disjunction) inner) (l : Level) :
    Reads l (l.reader inner) := by
  match l with
  | .chain c =>
    rw [reader_chain]
    exact reads_level (reads_reader known c.operand)
  | .leading u =>
    intro ts e rest ended h
    rw [reader_leading] at h
    exact reads_before (reads_reader known u.operand) _ ended h
  | .comparison => exact reads_comparison (reads_reader known (.chain .sum))
  | .atom => exact reads_atom known
termination_by l.rank
decreasing_by
  · decide
  · exact rank_chain _
  · exact rank_leading _

theorem reads_expression (depth : Nat) : Reads (.chain .disjunction) (Expr.expression depth) := by
  induction depth with
  | zero =>
    intro ts e rest _ h
    cases h
  | succ depth ih => exact reads_reader ih (.chain .disjunction)

/-! ### Completeness -/

theorem operator?_eq_none (ends : Ends (.chain c) rest) : c.operator? (peek rest).token = none := by
  by_contra found
  obtain ⟨op, found⟩ := Option.ne_none_iff_exists'.mp found
  exact Nat.ne_of_lt ends (joins_operator (operator?_eq_some.mp found)).symm

theorem comparisonOperator?_eq_none (ends : Ends .comparison rest) :
    Expr.comparisonOperator? (peek rest).token = none := by
  by_contra found
  obtain ⟨op, found⟩ := Option.ne_none_iff_exists'.mp found
  exact Nat.ne_of_lt ends (joins_comparison (comparisonOperator?_eq_some.mp found)).symm

theorem before_of_not_mark {op : UnaryOperator} {fuel : Nat} (bare : (peek ts).token ∉ u.marks) :
    before u.isMark op operand fuel ts = operand ts := by
  cases fuel with
  | zero => rfl
  | succ fuel => rw [before, if_neg (mt isMark_iff.mp bare)]

theorem before_mark {op : UnaryOperator} {fuel : Nat} (marked : t.token ∈ u.marks) (more : ts ≠ [])
    (read : before u.isMark op operand fuel ts = .ok (e, rest)) :
    before u.isMark op operand (fuel + 1) (t :: ts) =
      .ok (.unary op e (t.span.join e.span), rest) := by
  have found : u.isMark (peek (t :: ts)).token = true := isMark_iff.mpr marked
  rw [before, if_pos found, advance_cons more, read]
  rfl

theorem chain_ends {fuel : Nat} {left : Expr} (ends : Ends (.chain c) rest) :
    chain c.operator? operand fuel left rest = .ok (left, rest) := by
  cases fuel with
  | zero => rfl
  | succ fuel => rw [chain, operator?_eq_none ends]

theorem chain_cons {fuel : Nat} {left : Expr} (spelled : (t.token, op) ∈ c.operators)
    (more : ts ≠ []) (read : operand ts = .ok (e, rest)) :
    chain c.operator? operand (fuel + 1) left (t :: ts) =
      chain c.operator? operand fuel (.join op left e) rest := by
  have found : c.operator? (peek (t :: ts)).token = some op := operator?_eq_some.mpr spelled
  rw [chain, found, advance_cons more]
  simp only [read]

theorem comparison_single (read : Expr.sum inner ts = .ok (e, rest))
    (ends : Ends .comparison rest) : Expr.comparison inner ts = .ok (e, rest) := by
  simp only [Expr.comparison, read, comparisonOperator?_eq_none ends]

theorem comparison_compared {left : Expr} {after : Tokens}
    (readLeft : Expr.sum inner ts = .ok (left, t :: after))
    (spelled : (t.token, op) ∈ comparisons) (more : after ≠ [])
    (readRight : Expr.sum inner after = .ok (e, rest)) (ends : Ends .comparison rest) :
    Expr.comparison inner ts = .ok (.join op left e, rest) := by
  have found : Expr.comparisonOperator? (peek (t :: after)).token = some op :=
    comparisonOperator?_eq_some.mpr spelled
  simp only [Expr.comparison, readLeft, found, advance_cons more, readRight,
    comparisonOperator?_eq_none ends]
  rfl

/-! #### Atoms and calls -/

theorem atom_literal {v : Value} (means : value? t.token = some v) (more : rest ≠ []) :
    Expr.atom inner (t :: rest) = .ok (.literal v t.span, rest) := by
  obtain ⟨token, span⟩ := t
  unfold Expr.atom
  simp only [peek, List.headD_cons, advance_cons more]
  cases token with
  | number digits =>
    simp only [value?] at means
    obtain ⟨d, read, rfl⟩ := ok_of_map_toOption means
    simp only [read]
  | string s =>
    cases means
    rfl
  | word w =>
    simp only [value?] at means
    split at means
    · rename_i yes
      cases means
      simp only [if_pos yes]
    · rename_i notYes
      split at means
      · rename_i no
        cases means
        simp only [if_neg notYes, if_pos no]
      · cases means
  | _ => cases means

/-- A word that is not reserved is a name, or a call where a parenthesis follows it. -/
theorem atom_word {w : String} {span : Span} (free : w ∉ reserved) (more : rest ≠ []) :
    Expr.atom inner (⟨.word w, span⟩ :: rest) =
      if (peek rest).token = .leftParen then call inner w span rest
      else .ok (.ref w span, rest) := by
  simp only [reserved, List.mem_cons, List.not_mem_nil, or_false, not_or] at free
  have next : peek (⟨.word w, span⟩ :: rest) = ⟨.word w, span⟩ := rfl
  simp [Expr.atom, next, advance_cons more, free]

theorem atom_name {w : String} {span : Span} (free : w ∉ reserved) (more : rest ≠ [])
    (ends : Ends .atom rest) :
    Expr.atom inner (⟨.word w, span⟩ :: rest) = .ok (.ref w span, rest) := by
  rw [atom_word free more, if_neg (not_opened ends)]

theorem expect_cons {wanted : Token} {span : Span} (more : rest ≠ []) :
    Expr.expect wanted (⟨wanted, span⟩ :: rest) = .ok (span, rest) := by
  simp [Expr.expect, peek, advance_cons more]

theorem atom_parenthesized {opened closed : Span} (inside : ts ≠ []) (more : rest ≠ [])
    (read : inner ts = .ok (e, ⟨.rightParen, closed⟩ :: rest)) :
    Expr.atom inner (⟨.leftParen, opened⟩ :: ts) = .ok (e, rest) := by
  unfold Expr.atom
  simp only [peek, List.headD_cons, advance_cons inside, read, bind, Except.bind, expect_cons more]
  rfl

theorem arguments_last {fuel : Nat} (read : inner ts = .ok (e, rest))
    (last : (peek rest).token ≠ .comma) : arguments inner (fuel + 1) ts = .ok ([e], rest) := by
  simp only [arguments, read, if_neg last]

theorem arguments_cons {fuel : Nat} {comma : Span} {after : Tokens} {others : List Expr}
    (read : inner ts = .ok (e, ⟨.comma, comma⟩ :: after)) (more : after ≠ [])
    (readMore : arguments inner fuel after = .ok (others, rest)) :
    arguments inner (fuel + 1) ts = .ok (e :: others, rest) := by
  have found : (peek (⟨.comma, comma⟩ :: after)).token = .comma := rfl
  simp only [arguments, read, if_pos found, advance_cons more, readMore]
  rfl

theorem function_of_call? {name : String} {args : List Expr} {span : Span}
    (takes : Expr.call? name args span = some e) :
    name ∉ reserved ∧ ∃ bounds, Expr.arity? name = some bounds := by
  rcases call?_eq_some takes with ⟨f, a, rfl, -⟩ | ⟨f, a, b, rfl, -⟩
  · exact ⟨free_name1 f, by cases f <;> exact ⟨_, rfl⟩⟩
  · exact ⟨free_name2 f, by cases f <;> exact ⟨_, rfl⟩⟩

theorem atom_call {name : String} {named opened close : Span} {args : List Expr}
    (takes : Expr.call? name args (named.join close) = some e) (more : rest ≠ [])
    (given : (peek ts).token ≠ .rightParen)
    (read : arguments inner ts.length ts = .ok (args, ⟨.rightParen, close⟩ :: rest)) :
    Expr.atom inner (⟨.word name, named⟩ :: ⟨.leftParen, opened⟩ :: ts) = .ok (e, rest) := by
  obtain ⟨free, bounds, known⟩ := function_of_call? takes
  have inside : ts ≠ [] := by
    rintro rfl
    cases read
  have next : (peek (⟨.leftParen, opened⟩ :: ts)).token = .leftParen := rfl
  rw [atom_word free (List.cons_ne_nil _ _), if_pos next]
  simp only [call, known, expect_cons inside, bind, Except.bind, if_neg given, read,
    expect_cons more, takes]
  rfl

mutual

theorem Phrase.read {l : Level} (d : Phrase l) (depth : Nat) (fits : d.tokens.length ≤ depth)
    {rest : Tokens} (ends : Ends l rest) (more : rest ≠ []) :
    l.reader (Expr.expression depth) (d.tokens ++ rest) = .ok (d.tree, rest) := by
  match d with
  | .chained (c := c) first links =>
    rw [Phrase.tokens, List.length_append] at fits
    have readFirst := first.read depth (by omega) (links.ends ends) (by simp [more])
    rw [reader_chain, Phrase.chained_append, level, readFirst]
    exact links.read depth (by omega) (by simp) first.tree ends more
  | .marked (u := u) mark spelled body =>
    rw [Phrase.tokens, List.length_cons] at fits
    have readBody := body.read depth (by omega) ends more
    rw [reader_leading] at readBody ⊢
    exact before_mark spelled (by simp [more]) readBody
  | .bare (u := u) body =>
    rw [Phrase.tokens] at fits
    rw [reader_leading, Phrase.tokens, before_of_not_mark body.not_mark]
    exact body.read depth fits (ends.mono (Nat.le_of_lt (rank_leading u))) more
  | .single only =>
    have readOnly := only.read depth fits (ends.mono (by decide)) more
    exact comparison_single readOnly ends
  | .compared left mark op spelled right =>
    rw [Phrase.tokens, List.length_append, List.length_cons] at fits
    have readLeft := left.read depth (by omega) (ends_comparison spelled)
      (List.cons_ne_nil mark (right.tokens ++ rest))
    have readRight := right.read depth (by omega) (ends.mono (by decide)) more
    rw [Phrase.compared_append]
    exact comparison_compared readLeft spelled (by simp [more]) readRight ends
  | .literal token value means => exact atom_literal means more
  | .name word span free => exact atom_name free more ends
  | .parenthesized opened closed inner =>
    rw [Phrase.tokens, List.cons_append, List.length_cons, List.length_append] at fits
    obtain ⟨depth, rfl⟩ : ∃ k, depth = k + 1 := ⟨depth - 1, by omega⟩
    have readInner := inner.read depth (by omega) (ends_of_joins rfl)
      (List.cons_ne_nil ⟨.rightParen, closed⟩ rest)
    rw [Phrase.parenthesized_append]
    exact atom_parenthesized (by simp) more readInner
  | .call1 f named opened closed arg =>
    rw [Phrase.tokens, List.cons_append, List.cons_append, List.length_cons, List.length_cons,
      List.length_append] at fits
    obtain ⟨depth, rfl⟩ : ∃ k, depth = k + 1 := ⟨depth - 1, by omega⟩
    have readArg := arg.read depth (by omega) (ends_of_joins rfl)
      (List.cons_ne_nil ⟨.rightParen, closed⟩ rest)
    have takes : Expr.call? f.name [arg.tree] (named.join closed) =
        some (.call1 f arg.tree (named.join closed)) := by
      cases f <;> rfl
    rw [Phrase.call1_append]
    refine atom_call takes more (arg.peek_ne rfl) ?_
    rw [List.length_append, List.length_cons, ← Nat.add_assoc]
    exact arguments_last readArg nofun
  | .call2 f named opened comma closed first second =>
    simp only [Phrase.tokens, List.cons_append, List.append_assoc, List.length_cons,
      List.length_append] at fits
    obtain ⟨depth, rfl⟩ : ∃ k, depth = k + 1 := ⟨depth - 1, by omega⟩
    have readFirst := first.read depth (by omega) (ends_of_joins rfl)
      (List.cons_ne_nil ⟨.comma, comma⟩ (second.tokens ++ ⟨.rightParen, closed⟩ :: rest))
    have readSecond := second.read depth (by omega) (ends_of_joins rfl)
      (List.cons_ne_nil ⟨.rightParen, closed⟩ rest)
    have takes : Expr.call? f.name [first.tree, second.tree] (named.join closed) =
        some (.call2 f first.tree second.tree (named.join closed)) := by
      cases f <;> rfl
    rw [Phrase.call2_append]
    refine atom_call takes more (first.peek_ne rfl) ?_
    -- There is fuel for both arguments.
    have enough : (first.tokens ++ ⟨.comma, comma⟩ ::
        (second.tokens ++ ⟨.rightParen, closed⟩ :: rest)).length =
          first.tokens.length + second.tokens.length + rest.length + 2 := by
      simp only [List.length_append, List.length_cons]
      omega
    rw [enough]
    exact arguments_cons readFirst (by simp) (arguments_last readSecond nofun)

theorem Links.read {c : Chain} (links : Links c) (depth : Nat) {fuel : Nat}
    (fits : links.tokens.length ≤ depth) {rest : Tokens}
    (enough : (links.tokens ++ rest).length ≤ fuel) (left : Expr)
    (ends : Ends (.chain c) rest) (more : rest ≠ []) :
    chain c.operator? (c.operand.reader (Expr.expression depth)) fuel left (links.tokens ++ rest) =
      .ok (links.tree left, rest) := by
  match links with
  | .nil => exact chain_ends ends
  | .cons mark op spelled operand links =>
    rw [Links.tokens, List.length_append, List.length_cons] at fits
    have readOperand := operand.read depth (by omega) (links.ends ends) (by simp [more])
    match fuel with
    | 0 => simp at enough
    | fuel + 1 =>
      rw [Links.cons_append, chain_cons spelled (by simp [more]) readOperand]
      rw [Links.cons_append, List.length_cons, List.length_append] at enough
      exact links.read depth (by omega) (by omega) _ ends more

end

/-! ### Expressions of a text -/

/-- A list of tokens is an expression if a phrase spells it. -/
theorem ofTokens_ok (ended : Ended ts) :
    Expr.ofTokens ts = .ok e ↔
      ∃ (d : Phrase (.chain .disjunction)) (span : Span),
        ts = d.tokens ++ [⟨.eof, span⟩] ∧ e = d.tree := by
  unfold Expr.ofTokens
  constructor
  · intro h
    split at h
    · cases h
    · split at h
      · cases h
      · rename_i read
        obtain ⟨ended, d, consumed, rfl⟩ := reads_expression _ ended read
        split at h
        · rename_i finished
          obtain ⟨span, rfl⟩ := ended.eq_last finished
          cases h
          exact ⟨d, span, consumed, rfl⟩
        · cases h
  · rintro ⟨d, span, rfl, rfl⟩
    let whole : Tokens := d.tokens ++ [⟨.eof, span⟩]
    have read : Expr.expression (whole.length + 1) whole = .ok (d.tree, [⟨.eof, span⟩]) :=
      d.read whole.length (by simp [whole]) (ends_of_joins rfl) (List.cons_ne_nil _ [])
    rw [if_neg (d.peek_ne rfl), read]
    rfl

/-- The derivation of an expression that spells the tokens of a text. -/
def Phrase.Spells (d : Phrase (.chain .disjunction)) (text : String) : Prop :=
  ∃ span, LocatedToken.ofText text = .ok (d.tokens ++ [⟨.eof, span⟩])

theorem ofText_ok {text : String} {f : Formula} : Formula.ofText text = .ok f ↔
    ∃ d : Phrase (.chain .disjunction), d.Spells text ∧ f = ⟨text, d.tree⟩ := by
  constructor
  · intro h
    obtain ⟨ts, lexed, h⟩ := bind_ok.mp h
    obtain ⟨root, read, h⟩ := bind_ok.mp h
    cases pure_ok.mp h
    obtain ⟨d, span, rfl, rfl⟩ := (ofTokens_ok (ended_of_text lexed)).mp read
    exact ⟨d, ⟨span, lexed⟩, rfl⟩
  · rintro ⟨d, ⟨span, lexed⟩, rfl⟩
    have read : Expr.ofTokens (d.tokens ++ [⟨.eof, span⟩]) = .ok d.tree :=
      (ofTokens_ok (ended_of_text lexed)).mpr ⟨d, span, rfl, rfl⟩
    exact bind_ok.mpr ⟨_, lexed, bind_ok.mpr ⟨d.tree, read, rfl⟩⟩

/-- A text is an expression if a phrase spells its tokens. There is one such phrase at most, and no
name in it stands before an opening parenthesis. -/
theorem formula_iff_phrase (text : String) :
    (∀ f, Formula.ofText text = .ok f ↔
      ∃ d : Phrase (.chain .disjunction), d.Spells text ∧ f = ⟨text, d.tree⟩) ∧
    (∀ d d' : Phrase (.chain .disjunction), d.Spells text → d'.Spells text → d = d') ∧
    ∀ (d : Phrase (.chain .disjunction)) (span : Span), d.NamesApart [⟨.eof, span⟩] := by
  refine ⟨fun f => ofText_ok, ?_, fun d span => d.namesApart (ends_of_joins rfl)⟩
  rintro d d' ⟨span, lexed⟩ ⟨span', lexed'⟩
  have same := Except.ok.inj (lexed.symm.trans lexed')
  exact (d.unique d' same (ends_of_joins rfl) (ends_of_joins rfl)).1

/-- Products bind tighter than differences, and differences are read from the left. -/
theorem formula_iff_phrase_difference :
    ∃ d : Phrase (.chain .disjunction), d.Spells "a - b * c - d" ∧
      d.tree.toText = "((a - (b * c)) - d)" ∧
      ∀ d' : Phrase (.chain .disjunction), d'.Spells "a - b * c - d" → d' = d := by
  obtain ⟨derived, unique, -⟩ := formula_iff_phrase "a - b * c - d"
  have read : (Formula.ofText "a - b * c - d").map (fun f => f.root.toText) =
      .ok "((a - (b * c)) - d)" := by
    decide +kernel
  obtain ⟨f, read, written⟩ := map_ok.mp read
  obtain ⟨d, spells, rfl⟩ := (derived f).mp read
  exact ⟨d, spells, written, fun d' spells' => unique d' d spells' spells⟩

end Grammar

end Questionnaire
