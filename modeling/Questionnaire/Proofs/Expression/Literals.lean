import Questionnaire.Expression.Parser
import Questionnaire.Proofs.Expression.Typing

/-!
Literals of expressions that were read.

A literal is a number, a text or a truth value. Each level of the grammar hands on the expressions of
the level below it, so no expression that is read has an absent value in it:
`Formula.knownLiterals_of_text`.
-/

namespace Questionnaire

namespace Expr

/-- A reader all of whose expressions have known literals. -/
def ReadsKnown (p : Parser) : Prop :=
  ∀ (ts : Tokens) (e : Expr) (rest : Tokens), p ts = .ok (e, rest) → e.KnownLiterals

variable {inner operand : Parser} {ts rest : Tokens} {e : Expr} {span : Span} {name : String}
  {args : List Expr} {fuel : Nat}

/-! ### Levels of the grammar -/

theorem knownLiterals_join {op : Operator} {left right : Expr} (first : left.KnownLiterals)
    (second : right.KnownLiterals) : (join op left right).KnownLiterals :=
  ⟨first, second⟩

theorem readsKnown_chain {operator? : Token → Option Operator} (known : ReadsKnown operand)
    {left : Expr} (start : left.KnownLiterals) : ReadsKnown (chain operator? operand fuel left) := by
  induction fuel generalizing left with
  | zero =>
    intro ts e rest h
    cases h
    exact start
  | succ fuel ih =>
    intro ts e rest h
    unfold chain at h
    split at h
    · cases h
      exact start
    · split at h
      · cases h
      · rename_i right after read
        exact ih (knownLiterals_join start (known _ _ _ read)) _ _ _ h

theorem readsKnown_level {operator? : Token → Option Operator} (known : ReadsKnown operand) :
    ReadsKnown (level operator? operand) := by
  intro ts e rest h
  unfold level at h
  split at h
  · cases h
  · rename_i left after read
    exact readsKnown_chain known (known _ _ _ read) _ _ _ h

theorem readsKnown_before {isOperator : Token → Bool} {op : UnaryOperator}
    (known : ReadsKnown operand) : ReadsKnown (before isOperator op operand fuel) := by
  induction fuel with
  | zero => exact known
  | succ fuel ih =>
    intro ts e rest h
    unfold before at h
    split at h
    · split at h
      · cases h
      · rename_i below after read
        cases h
        have literals : below.KnownLiterals := ih _ _ _ read
        exact literals
    · exact known _ _ _ h

/-! ### Calls and atoms -/

theorem known_arguments (known : ReadsKnown inner) (h : arguments inner fuel ts = .ok (args, rest)) :
    ∀ a ∈ args, a.KnownLiterals := by
  induction fuel generalizing ts args with
  | zero => cases h
  | succ fuel ih =>
    unfold arguments at h
    split at h
    · cases h
    · rename_i first after read
      split at h
      · obtain ⟨⟨others, _⟩, more, made⟩ := map_ok.mp h
        cases made
        intro a member
        rcases List.mem_cons.mp member with rfl | later
        · exact known _ _ _ read
        · exact ih more a later
      · cases h
        intro a member
        cases List.mem_singleton.mp member
        exact known _ _ _ read

theorem known_call? (known : ∀ a ∈ args, a.KnownLiterals) (h : call? name args span = some e) :
    e.KnownLiterals := by
  unfold call? at h
  split at h <;> cases h
  case h_1.refl a | h_2.refl a => exact known a (by simp)
  all_goals exact ⟨known _ (by simp), known _ (by simp)⟩

theorem readsKnown_call (known : ReadsKnown inner) : ReadsKnown (call inner name span) := by
  intro ts e rest h
  unfold call at h
  split at h
  · cases h
  · obtain ⟨⟨_, opened⟩, _, h⟩ := bind_ok.mp h
    dsimp only at h
    -- The arguments are none, or they are read.
    split at h
    · obtain ⟨⟨_, _⟩, read, h⟩ := bind_ok.mp h
      obtain ⟨⟨_, _⟩, _, h⟩ := bind_ok.mp h
      cases pure_ok.mp read
      split at h
      · cases pure_ok.mp h
        exact known_call? (List.forall_mem_nil _) ‹_›
      · cases h
    · obtain ⟨⟨_, _⟩, read, h⟩ := bind_ok.mp h
      obtain ⟨⟨_, _⟩, _, h⟩ := bind_ok.mp h
      split at h
      · cases pure_ok.mp h
        exact known_call? (known_arguments known read) ‹_›
      · cases h

theorem readsKnown_atom (known : ReadsKnown inner) : ReadsKnown (atom inner) := by
  intro ts e rest h
  unfold atom at h
  dsimp only at h
  split at h
  · split at h
    · cases h
      exact nofun
    · cases h
  · cases h
    exact nofun
  · obtain ⟨⟨below, _⟩, read, h⟩ := bind_ok.mp h
    obtain ⟨_, _, h⟩ := bind_ok.mp h
    cases pure_ok.mp h
    exact known _ _ _ read
  · split at h
    · cases h
      exact nofun
    · split at h
      · cases h
        exact nofun
      · split at h
        · cases h
        · split at h
          · exact readsKnown_call known _ _ _ h
          · cases h
            trivial
  · cases h
  · cases h

/-! ### Expressions -/

theorem readsKnown_comparison (known : ReadsKnown inner) : ReadsKnown (comparison inner) := by
  have sums : ReadsKnown (sum inner) :=
    readsKnown_level (readsKnown_level fun ts => readsKnown_before (readsKnown_atom known) ts)
  intro ts e rest h
  unfold comparison at h
  split at h
  · cases h
  · rename_i left after read
    split at h
    · cases h
      exact sums _ _ _ read
    · split at h
      · cases h
      · rename_i right last readRight
        split at h
        · cases h
        · cases h
          exact ⟨sums _ _ _ read, sums _ _ _ readRight⟩

theorem readsKnown_expression (depth : Nat) : ReadsKnown (expression depth) := by
  induction depth with
  | zero =>
    intro ts e rest h
    cases h
  | succ depth ih =>
    exact readsKnown_level (readsKnown_level fun ts => readsKnown_before (readsKnown_comparison ih) ts)

end Expr

theorem Formula.knownLiterals_of_text {text : String} {f : Formula} (h : Formula.ofText text = .ok f) :
    f.root.KnownLiterals := by
  obtain ⟨ts, _, h⟩ := bind_ok.mp h
  obtain ⟨root, read, h⟩ := bind_ok.mp h
  cases pure_ok.mp h
  unfold Expr.ofTokens at read
  split at read
  · cases read
  · split at read
    · cases read
    · rename_i found
      split at read
      · cases read
        exact Expr.readsKnown_expression _ _ _ _ found
      · cases read

end Questionnaire
