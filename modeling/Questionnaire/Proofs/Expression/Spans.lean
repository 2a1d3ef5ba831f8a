import Questionnaire.Expression.Parser
import Questionnaire.Expression.Typing
import Questionnaire.Proofs.Expression.Scanning
import Questionnaire.Proofs.Outcome
import Questionnaire.Proofs.Text.Slices

/-!
Where the parts of an expression stand in its text.

A token takes what it was scanned from out of the text, so its span fits the text, and a word is what
stands there: `placed_of_split`. The readers join the spans of tokens and drop none of them halfway, so
all nodes of a tree and all errors have spans that fit: `keeps_expression`. Names are words, so the span
of an unknown one shows that name: `ExprError.Arises.placed`.
-/

namespace Questionnaire

open Text

variable {cs : List Char}

/-! ### Places -/

/-- A token whose span fits the text. A word stands there as it is spelled. -/
structure LocatedToken.Placed (cs : List Char) (t : LocatedToken) : Prop where
  fits : t.span.Fits cs
  word : ∀ w, t.token = .word w → t.span.slice? cs = some w.toList

/-- An error whose span fits the text. An unknown name stands there as it is spelled. -/
structure ExprError.Placed (cs : List Char) (e : ExprError) : Prop where
  fits : e.span.Fits cs
  name : ∀ w, e.cause = .unknownParameter w → e.span.slice? cs = some w.toList

/-- A tree all of whose spans fit the text. A name stands there as it is spelled. -/
def Expr.Placed (cs : List Char) : Expr → Prop
  | literal _ span => span.Fits cs
  | ref name span => span.slice? cs = some name.toList
  | unary _ e span => e.Placed cs ∧ span.Fits cs
  | binary _ l r span => l.Placed cs ∧ r.Placed cs ∧ span.Fits cs
  | call1 _ a span => a.Placed cs ∧ span.Fits cs
  | call2 _ a b span => a.Placed cs ∧ b.Placed cs ∧ span.Fits cs

theorem Expr.Placed.fits {e : Expr} (placed : e.Placed cs) : e.span.Fits cs := by
  cases e with
  | literal => exact placed
  | ref name span => exact Span.fits_iff.mpr ⟨_, placed⟩
  | unary => exact placed.2
  | binary => exact placed.2.2
  | call1 => exact placed.2
  | call2 => exact placed.2.2

theorem ExprError.placed_of_fits {cause : ExprCause} {span : Span} (fits : span.Fits cs)
    (other : cause.kind ≠ .unknownReference) : ExprError.Placed cs ⟨cause, span⟩ where
  fits := fits
  name := by
    rintro name rfl
    exact absurd rfl other

/-! ### Tokens -/

namespace Token

variable {c quote : Char} {rest raw content : List Char} {token : Token}

theorem scanString_append_rest (h : scanString quote cs = .ok (content, raw, rest)) : cs = raw ++ rest := by
  fun_induction scanString quote cs generalizing content raw rest with
  | case1 | case3 | case4 => cases h
  | case2 | case5 =>
    cases h
    rfl
  | case6 | case7 =>
    rename_i ih
    obtain ⟨⟨content, raw, rest⟩, read, made⟩ := map_ok.mp h
    cases made
    simp [ih read]

theorem scanNumber_append_rest (cs : List Char) : (scanNumber cs).1 ++ (scanNumber cs).2 = cs := by
  have whole := List.takeWhile_append_dropWhile (p := Char.isDigit) (l := cs)
  unfold scanNumber spanDigits
  dsimp only
  split
  · rename_i first after found
    split
    · rw [List.append_assoc, List.cons_append, List.takeWhile_append_dropWhile, ← found, whole]
    · exact whole
  · exact whole

theorem scan_append_rest (h : scan c cs = .ok (token, raw, rest)) :
    c :: cs = raw ++ rest ∧ ∀ w, token = .word w → raw = w.toList := by
  cases scan_ok h with
  | string _ read =>
    rw [List.cons_append, ← scanString_append_rest read]
    exact ⟨rfl, nofun⟩
  | number => exact ⟨(scanNumber_append_rest (c :: cs)).symm, nofun⟩
  | sign _ _ found =>
    refine ⟨by rw [List.cons_append, List.take_append_drop], ?_⟩
    exact fun w same => absurd (by rw [same]; rfl) (signs_of_scanMark found)
  | word =>
    refine ⟨by rw [List.cons_append, List.takeWhile_append_dropWhile], ?_⟩
    rintro w ⟨⟩
    rw [String.toList_ofList]

theorem scanString_error {cause : ExprCause} (h : scanString quote cs = .error cause) :
    cause.kind = .syntaxError := by
  fun_induction scanString quote cs with
  | case1 | case3 | case4 =>
    cases h
    rfl
  | case2 | case5 => cases h
  | case6 | case7 =>
    rename_i ih
    exact ih (map_error.mp h)

theorem scan_error {cause : ExprCause} (h : scan c cs = .error cause) : cause.kind = .syntaxError := by
  unfold scan at h
  split at h
  · exact scanString_error (map_error.mp h)
  · split at h
    · cases h
    · split at h
      · cases h
      · cases h
      · split at h <;> cases h
        rfl

end Token

namespace LocatedToken

theorem placed_eof (cs : List Char) : Placed cs ⟨.eof, byteLength cs, byteLength cs⟩ :=
  ⟨⟨Nat.le_refl _, isBoundary_length cs, isBoundary_length cs⟩, nofun⟩

/-- The tokens of the rest of a text have their places in the whole text. -/
theorem placed_of_split (fuel : Nat) (before rest : List Char) (whole : cs = before ++ rest) :
    Settles (ExprError.Placed cs) (∀ t ∈ ·, Placed cs t)
      (split (byteLength cs) fuel (byteLength before) rest) := by
  have last : ∀ t ∈ [(⟨.eof, byteLength cs, byteLength cs⟩ : LocatedToken)], Placed cs t := by
    intro t member
    rw [List.mem_singleton.mp member]
    exact placed_eof cs
  induction fuel generalizing before rest with
  | zero => exact last
  | succ fuel ih =>
    cases rest with
    | nil => exact last
    | cons c rest =>
      unfold split
      split
      · have passed := ih (before ++ [c]) rest (by simp [whole])
        rw [byteLength_append] at passed
        exact passed
      · split
        · rename_i cause scanned
          have begins : IsBoundary cs (byteLength before) := ⟨before, c :: rest, whole, rfl⟩
          have ends : IsBoundary cs (byteLength before + c.utf8Size) :=
            ⟨before ++ [c], rest, by simp [whole], byteLength_append before [c]⟩
          have kind : cause.kind ≠ .unknownReference := by
            rw [Token.scan_error scanned]
            nofun
          refine ExprError.placed_of_fits ?_ kind
          unfold errorSpan
          split
          · exact ⟨Nat.le_add_right _ _, begins, ends⟩
          · exact ⟨begins.le, begins, isBoundary_length cs⟩
        · rename_i token raw after scanned
          obtain ⟨consumed, spelled⟩ := Token.scan_append_rest scanned
          have split : cs = before ++ raw ++ after := by rw [whole, consumed, List.append_assoc]
          have here :
              (⟨byteLength before, byteLength before + byteLength raw⟩ : Span).slice? cs = some raw :=
            Span.slice?_eq_some.mpr ⟨before, after, split, rfl, byteLength_append before raw⟩
          have later := ih _ _ split
          rw [byteLength_append] at later
          refine later.map fun ts placed => List.forall_mem_cons.mpr ⟨⟨?_, ?_⟩, placed⟩
          · exact Span.fits_iff.mpr ⟨raw, here⟩
          · intro w same
            rw [← spelled w same]
            exact here

end LocatedToken

/-! ### Readers -/

namespace Expr

variable {ts rest : Tokens} {inner operand : Parser} {fuel : Nat} {span : Span}

/-- A reader that makes trees and errors in their places out of tokens in theirs. -/
def Keeps (cs : List Char) (p : Parser) : Prop :=
  ∀ ts, (∀ t ∈ ts, t.Placed cs) →
    Settles (ExprError.Placed cs) (fun r => r.1.Placed cs ∧ ∀ t ∈ r.2, t.Placed cs) (p ts)

theorem placed_peek (placed : ∀ t ∈ ts, t.Placed cs) : (peek ts).Placed cs := by
  cases ts with
  | nil => exact ⟨Span.fits_nothing cs, nofun⟩
  | cons t ts => exact placed t List.mem_cons_self

theorem placed_advance (placed : ∀ t ∈ ts, t.Placed cs) : ∀ t ∈ advance ts, t.Placed cs := by
  intro t member
  cases ts with
  | nil => exact placed t member
  | cons first ts =>
    cases ts with
    | nil => exact placed t member
    | cons second ts => exact placed t (List.mem_cons_of_mem _ member)

theorem settles_errorAt {α : Type} {good : α → Prop} {cause : ExprCause}
    (placed : ∀ t ∈ ts, t.Placed cs)
    (other : cause.kind ≠ .unknownReference) :
    Settles (ExprError.Placed cs) good (errorAt ts cause) :=
  ExprError.placed_of_fits (placed_peek placed).fits other

theorem settles_expect {wanted : Token} (placed : ∀ t ∈ ts, t.Placed cs) :
    Settles (ExprError.Placed cs) (fun r => r.1.Fits cs ∧ ∀ t ∈ r.2, t.Placed cs) (expect wanted ts) := by
  unfold expect
  split
  · exact ⟨(placed_peek placed).fits, placed_advance placed⟩
  · exact settles_errorAt placed nofun

theorem placed_join {op : Operator} {left right : Expr} (first : left.Placed cs)
    (second : right.Placed cs) : (join op left right).Placed cs :=
  ⟨first, second, first.fits.join second.fits⟩

theorem keeps_chain {operator? : Token → Option Operator} (known : Keeps cs operand) {left : Expr}
    (start : left.Placed cs) : Keeps cs (chain operator? operand fuel left) := by
  induction fuel generalizing left with
  | zero =>
    intro ts placed
    exact ⟨start, placed⟩
  | succ fuel ih =>
    intro ts placed
    have next := known (advance ts) (placed_advance placed)
    unfold chain
    split
    · exact ⟨start, placed⟩
    · rename_i op found
      cases read : operand (advance ts) with
      | error e => exact next.of_error read
      | ok r =>
        obtain ⟨right, later⟩ := next.of_ok read
        exact ih (placed_join start right) r.2 later

theorem keeps_level {operator? : Token → Option Operator} (known : Keeps cs operand) :
    Keeps cs (level operator? operand) := by
  intro ts placed
  have first := known ts placed
  unfold level
  cases read : operand ts with
  | error e => exact first.of_error read
  | ok r =>
    obtain ⟨left, later⟩ := first.of_ok read
    exact keeps_chain known left r.2 later

theorem keeps_before {isOperator : Token → Bool} {op : UnaryOperator} (known : Keeps cs operand)
    (fuel : Nat) : Keeps cs (before isOperator op operand fuel) := by
  induction fuel with
  | zero => exact known
  | succ fuel ih =>
    intro ts placed
    have below := ih (advance ts) (placed_advance placed)
    unfold before
    split
    · cases read : before isOperator op operand fuel (advance ts) with
      | error e => exact below.of_error read
      | ok r =>
        obtain ⟨body, later⟩ := below.of_ok read
        exact ⟨⟨body, (placed_peek placed).fits.join body.fits⟩, later⟩
    · exact known ts placed

/-! #### Calls and atoms -/

theorem settles_arguments (fuel : Nat) (known : Keeps cs inner) (placed : ∀ t ∈ ts, t.Placed cs) :
    Settles (ExprError.Placed cs) (fun r => (∀ a ∈ r.1, a.Placed cs) ∧ ∀ t ∈ r.2, t.Placed cs)
      (arguments inner fuel ts) := by
  induction fuel generalizing ts with
  | zero => exact settles_errorAt placed nofun
  | succ fuel ih =>
    have first := known ts placed
    unfold arguments
    cases read : inner ts with
    | error e => exact first.of_error read
    | ok r =>
      obtain ⟨arg, later⟩ := first.of_ok read
      dsimp only
      split
      · refine (ih (placed_advance later)).map fun others placed => ?_
        exact ⟨List.forall_mem_cons.mpr ⟨arg, placed.1⟩, placed.2⟩
      · refine ⟨?_, later⟩
        intro a member
        rw [List.mem_singleton.mp member]
        exact arg

theorem placed_call? {name : String} {args : List Expr} {e : Expr} (placed : ∀ a ∈ args, a.Placed cs)
    (fits : span.Fits cs) (h : call? name args span = some e) : e.Placed cs := by
  unfold call? at h
  split at h <;> cases h
  case h_1.refl a | h_2.refl a => exact ⟨placed a (by simp), fits⟩
  all_goals exact ⟨placed _ (by simp), placed _ (by simp), fits⟩

theorem keeps_call {name : String} (known : Keeps cs inner) (named : span.Fits cs) :
    Keeps cs (call inner name span) := by
  intro ts placed
  unfold call
  split
  · exact ExprError.placed_of_fits named nofun
  · refine (settles_expect placed).bind fun opened later => ?_
    dsimp only
    split
    case' isTrue =>
      have read : Settles (ExprError.Placed cs)
          (fun r : List Expr × Tokens => (∀ a ∈ r.1, a.Placed cs) ∧ ∀ t ∈ r.2, t.Placed cs)
          (pure ([], opened.2)) :=
        ⟨List.forall_mem_nil _, later.2⟩
    case' isFalse => have read := settles_arguments opened.2.length known later.2
    -- Whatever the arguments are, they are closed and counted.
    all_goals
      refine read.bind fun given below => ?_
      refine (settles_expect below.2).bind fun closed after => ?_
      have fits := named.join after.1
      split
      · rename_i made
        exact ⟨placed_call? below.1 fits made, after.2⟩
      · exact ExprError.placed_of_fits fits nofun

theorem keeps_atom (known : Keeps cs inner) : Keeps cs (atom inner) := by
  intro ts placed
  have here := placed_peek placed
  have later := placed_advance placed
  unfold atom
  dsimp only
  split
  · split
    · exact ⟨here.fits, later⟩
    · exact ExprError.placed_of_fits here.fits nofun
  · exact ⟨here.fits, later⟩
  · refine (known _ later).bind fun r below => ?_
    refine (settles_expect below.2).bind fun closed placed => ?_
    exact ⟨below.1, placed.2⟩
  · rename_i w found
    split
    · exact ⟨here.fits, later⟩
    · split
      · exact ⟨here.fits, later⟩
      · split
        · exact ExprError.placed_of_fits here.fits nofun
        · split
          · exact keeps_call known here.fits _ later
          · exact ⟨here.word w found, later⟩
  · exact ExprError.placed_of_fits here.fits nofun
  · exact ExprError.placed_of_fits here.fits nofun

/-! #### Expressions -/

theorem keeps_comparison (known : Keeps cs inner) : Keeps cs (comparison inner) := by
  have signs : Keeps cs (signed inner) := fun ts => keeps_before (keeps_atom known) ts.length ts
  have sums : Keeps cs (sum inner) := keeps_level (keeps_level signs)
  intro ts placed
  have first := sums ts placed
  unfold comparison
  cases read : sum inner ts with
  | error e => exact first.of_error read
  | ok r =>
    obtain ⟨left, later⟩ := first.of_ok read
    have second := sums (advance r.2) (placed_advance later)
    dsimp only
    split
    · exact ⟨left, later⟩
    · cases readRight : sum inner (advance r.2) with
      | error e => exact second.of_error readRight
      | ok last =>
        obtain ⟨right, after⟩ := second.of_ok readRight
        dsimp only
        split
        · exact settles_errorAt after nofun
        · exact ⟨placed_join left right, after⟩

theorem keeps_expression (depth : Nat) : Keeps cs (expression depth) := by
  induction depth with
  | zero =>
    intro ts placed
    exact settles_errorAt placed nofun
  | succ depth ih =>
    have negations : Keeps cs (negation (expression depth)) := fun ts =>
      keeps_before (keeps_comparison ih) ts.length ts
    exact keeps_level (keeps_level negations)

theorem settles_ofTokens (placed : ∀ t ∈ ts, t.Placed cs) :
    Settles (ExprError.Placed cs) (Expr.Placed cs) (ofTokens ts) := by
  have whole : Settles (ExprError.Placed cs) _ (expression (ts.length + 1) ts) :=
    keeps_expression _ ts placed
  unfold ofTokens
  split
  · exact ExprError.placed_of_fits (Span.fits_nothing cs) nofun
  · cases read : expression (ts.length + 1) ts with
    | error e => exact whole.of_error read
    | ok r =>
      obtain ⟨root, later⟩ := whole.of_ok read
      dsimp only
      split
      · exact root
      · exact settles_errorAt later nofun

/-! ### Types -/

variable {env : TypeEnv}

theorem settles_binaryType {op : Operator} {l r : AnswerType} {left right : Span}
    (first : left.Fits cs) (second : right.Fits cs) (whole : span.Fits cs) :
    Settles (ExprError.Placed cs) (fun _ => True) (binaryType op l r left right span) := by
  have refused {l r : AnswerType} : (ExprError.mk (.operands op l r) span).Placed cs :=
    ExprError.placed_of_fits whole nofun
  cases op with
  | and | or =>
    unfold binaryType
    dsimp only
    split
    · exact ExprError.placed_of_fits first nofun
    · split
      · exact ExprError.placed_of_fits second nofun
      · exact trivial
  | eq | ne | order =>
    unfold binaryType
    dsimp only
    split
    · exact trivial
    · exact refused
  | arithmetic op =>
    unfold binaryType
    dsimp only
    split
    · exact trivial
    · exact refused

theorem settles_unaryType {op : UnaryOperator} {t : AnswerType} {operand : Span}
    (below : operand.Fits cs) (whole : span.Fits cs) :
    Settles (ExprError.Placed cs) (fun _ => True) (unaryType op t operand span) := by
  unfold unaryType
  split <;> split
  · exact trivial
  · exact ExprError.placed_of_fits whole nofun
  · exact trivial
  · exact ExprError.placed_of_fits below nofun

theorem settles_checkArgument {function : String} {t : AnswerType} (fits : span.Fits cs) :
    Settles (ExprError.Placed cs) (fun _ => True) (checkArgument function t span) := by
  unfold checkArgument
  split
  · exact trivial
  · exact ExprError.placed_of_fits fits nofun

theorem settles_type {e : Expr} (placed : e.Placed cs) :
    Settles (ExprError.Placed cs) (fun _ => True) (e.type env) := by
  induction e with
  | literal => exact trivial
  | ref name span =>
    unfold Expr.type
    split
    · exact trivial
    · refine ⟨placed.fits, ?_⟩
      rintro _ ⟨⟩
      exact placed
  | unary op e span ih =>
    exact (ih placed.1).bind fun t _ => settles_unaryType placed.1.fits placed.2
  | binary op l r span ihl ihr =>
    refine (ihl placed.1).bind fun t _ => (ihr placed.2.1).bind fun u _ => ?_
    exact settles_binaryType placed.1.fits placed.2.1.fits placed.2.2
  | call1 f a span ih =>
    refine (ih placed.1).bind fun t _ => ?_
    exact (settles_checkArgument placed.1.fits).bind fun _ _ => trivial
  | call2 f a b span iha ihb =>
    refine (iha placed.1).bind fun t _ => ?_
    refine (settles_checkArgument placed.1.fits).bind fun _ _ => ?_
    refine (ihb placed.2.1).bind fun u _ => ?_
    exact (settles_checkArgument placed.2.1.fits).bind fun _ _ => trivial

theorem settles_checkCondition {e : Expr} (placed : e.Placed cs) :
    Settles (ExprError.Placed cs) (fun _ => True) (e.checkCondition env) := by
  refine (settles_type placed).bind fun t _ => ?_
  split
  · exact trivial
  · exact ExprError.placed_of_fits placed.fits nofun

end Expr

/-! ### Errors of a text -/

theorem Formula.settles_ofText (text : String) :
    Settles (ExprError.Placed text.toList) (fun f => f.root.Placed text.toList) (Formula.ofText text) := by
  have tokens : Settles (ExprError.Placed text.toList) (∀ t ∈ ·, t.Placed text.toList)
      (LocatedToken.ofText text) :=
    LocatedToken.placed_of_split _ [] text.toList rfl
  refine tokens.bind fun ts placed => ?_
  exact (Expr.settles_ofTokens placed).bind fun root here => here

/-- The errors that a text gives when it is read as an expression, and when the expression is given a
type or has to be a condition. -/
inductive ExprError.Arises (text : String) : ExprError → Prop
  | reading {e : ExprError} (failed : Formula.ofText text = .error e) : Arises text e
  | typing {e : ExprError} {f : Formula} (read : Formula.ofText text = .ok f) (env : TypeEnv)
      (failed : f.root.type env = .error e) : Arises text e
  | condition {e : ExprError} {f : Formula} (read : Formula.ofText text = .ok f) (env : TypeEnv)
      (failed : f.root.checkCondition env = .error e) : Arises text e

theorem ExprError.Arises.placed {text : String} {e : ExprError} (arises : e.Arises text) :
    e.Placed text.toList := by
  have settles := Formula.settles_ofText text
  cases arises with
  | reading failed => exact settles.of_error failed
  | typing read env failed => exact (Expr.settles_type (settles.of_ok read)).of_error failed
  | condition read env failed => exact (Expr.settles_checkCondition (settles.of_ok read)).of_error failed

end Questionnaire
