import Questionnaire.Expression.Parser
import Questionnaire.Proofs.Expression.Typing
import Questionnaire.Value.Inference

/-!
Types of expressions with untyped names.

An untyped operand of arithmetic is taken for a number where the other one is a number. That is
wrong of a span that is multiplied with a number or divided by one: such a product is a span.
`Expr.type_of_value_iff` says that a value differs from its type for no other reason.
-/

namespace Questionnaire

/-- Every name of a concrete type has a value of that type, if it has one. A name of the unknown
type may have any value. -/
def Scope.Respects (scope : Scope) (env : TypeEnv) : Prop :=
  ∀ name t, env name = some t → t ≠ .unknown → ∀ v, scope name = some v → v.type = t

/-! ### Operators -/

namespace AnswerType

/-- Whether an expression of type `t` can have a value of type `x`. What is taken for a number can
also be a span or a moment. -/
def Admits (t x : AnswerType) : Prop :=
  t = .unknown ∨ x = t ∨ t = .number ∧ (x = .timeSpan ∨ x = .moment)

/-- A value of type `x` is taken for a number and is none. -/
def Mistaken (t x : AnswerType) : Prop := t = .number ∧ x ≠ .number

/-- An untyped span is scaled by a number: `l` and `r` are the types of the operands, `x` and `y`
those of their values. -/
def Scales (op : ArithmeticOperator) (l r x y : AnswerType) : Prop :=
  match op with
  | .mul => l = .unknown ∧ x = .timeSpan ∧ r = .number ∨ l = .number ∧ r = .unknown ∧ y = .timeSpan
  | .div => l = .unknown ∧ x = .timeSpan ∧ r = .number
  | .add | .sub => False

instance (t x : AnswerType) : Decidable (t.Admits x) := inferInstanceAs (Decidable (_ ∨ _))

instance (t x : AnswerType) : Decidable (t.Mistaken x) := inferInstanceAs (Decidable (_ ∧ _))

instance (op : ArithmeticOperator) (l r x y : AnswerType) : Decidable (Scales op l r x y) :=
  match op with
  | .mul => inferInstanceAs (Decidable (_ ∨ _))
  | .div => inferInstanceAs (Decidable (_ ∧ _))
  | .add | .sub => inferInstanceAs (Decidable False)

variable {op : ArithmeticOperator} {t l r x y z : AnswerType}

/-- Arithmetic makes no other mistake than to take a scaled span for a number, and hands on those
that were made. -/
theorem arithmetic?_mistaken (left : l.Admits x) (right : r.Admits y) (known : x ≠ .unknown)
    (known' : y ≠ .unknown) (rule : arithmetic? op l r = some t)
    (value : arithmetic? op x y = some z) :
    t.Admits z ∧ (t.Mistaken z ↔ Scales op l r x y ∨ l.Mistaken x ∨ r.Mistaken y) := by
  unfold arithmetic? at value
  -- Values are combined by the rows for two concrete types. Each operand then has the type of its
  -- value, is untyped, or was taken for a number.
  split at value <;> cases value <;> try contradiction
  all_goals
    rcases left with rfl | rfl | ⟨rfl, h | h⟩ <;> try contradiction
    all_goals rcases right with rfl | rfl | ⟨rfl, h | h⟩ <;> try contradiction
  all_goals first
    | cases rule
      decide
    | cases op <;> cases rule <;> decide

theorem not_mistaken (t : AnswerType) : ¬t.Mistaken t := fun h => h.2 h.1

end AnswerType

/-- Values are combined as their types are, if they are not absent. -/
theorem Value.compute_ok {op : ArithmeticOperator} {a b v : Value} (h : a.compute op b = .ok v) :
    a.type ≠ .unknown ∧ b.type ≠ .unknown ∧
      AnswerType.arithmetic? op a.type b.type = some v.type := by
  unfold compute at h
  split at h
  case h_11 => cases h
  all_goals
    obtain ⟨_, -, rfl⟩ := map_ok.mp h
    simp [type, AnswerType.arithmetic?]

theorem Operator.apply_ok_boolean {op : Operator} {a b v : Value} (other : ∀ a, op ≠ .arithmetic a)
    (h : op.apply a b = .ok v) : v.type = .boolean := by
  cases op with
  | arithmetic op => exact absurd rfl (other op)
  | _ =>
    obtain ⟨_, -, rfl⟩ := map_ok.mp h
    rfl

theorem Operator.settled?_ok_boolean {op : Operator} {a v : Value}
    (h : op.settled? a = .ok (some v)) : v.type = .boolean := by
  cases op with
  | and | or =>
    obtain ⟨b, -, settled⟩ := map_ok.mp h
    cases b <;> cases settled
    rfl
  | _ => cases h

theorem UnaryOperator.apply_neg_ok {a v : Value} (h : UnaryOperator.neg.apply a = .ok v) :
    v.type = a.type := by
  cases a with
  | number d =>
    cases h
    rfl
  | timeSpan s =>
    obtain ⟨_, -, rfl⟩ := map_ok.mp h
    rfl
  | _ => cases h

theorem UnaryOperator.apply_not_ok {a v : Value} (h : UnaryOperator.not.apply a = .ok v) :
    v.type = .boolean := by
  cases a <;> cases h
  rfl

/-! ### Expressions -/

namespace Expr

variable {env : TypeEnv} {scope : Scope} {e : Expr} {t : AnswerType} {v : Value}

/-- An untyped expression whose value is a span. -/
def UntypedSpan (env : TypeEnv) (scope : Scope) (e : Expr) : Prop :=
  e.type env = .ok .unknown ∧ ∃ s, (e.evaluate scope).1 = .ok (.timeSpan s)

/-- An untyped span is multiplied with a number, or divided by one. -/
def ScalesSpan (env : TypeEnv) (scope : Scope) (op : ArithmeticOperator) (l r : Expr) : Prop :=
  (op = .mul ∨ op = .div) ∧ l.UntypedSpan env scope ∧ r.type env = .ok .number ∨
    op = .mul ∧ l.type env = .ok .number ∧ r.UntypedSpan env scope

/-- An untyped span is scaled somewhere in the arithmetic of an expression. -/
def ScalesUntyped (env : TypeEnv) (scope : Scope) : Expr → Prop
  | unary .neg e _ => e.ScalesUntyped env scope
  | binary (.arithmetic op) l r _ =>
    ScalesSpan env scope op l r ∨ l.ScalesUntyped env scope ∨ r.ScalesUntyped env scope
  | _ => False

theorem evaluate_binary_ok {op : Operator} {l r : Expr} {span : Span}
    (h : ((binary op l r span).evaluate scope).1 = .ok v) :
    ∃ a, (l.evaluate scope).1 = .ok a ∧
      (op.settled? a = .ok (some v) ∨
        op.settled? a = .ok none ∧ ∃ b, (r.evaluate scope).1 = .ok b ∧ op.apply a b = .ok v) := by
  cases first : (l.evaluate scope).1 with
  | error e =>
    simp only [evaluate, first] at h
    cases h
  | ok a =>
    refine ⟨a, rfl, ?_⟩
    simp only [evaluate, first] at h
    cases settled : op.settled? a with
    | error e =>
      simp only [settled] at h
      cases h
    | ok outcome =>
      cases outcome with
      | some w =>
        simp only [settled] at h
        cases h
        exact .inl rfl
      | none =>
        simp only [settled] at h
        obtain ⟨b, second, applied⟩ := bind_ok.mp h
        exact .inr ⟨rfl, b, second, applied⟩

theorem evaluate_boolean {op : Operator} {l r : Expr} {lt rt : AnswerType} {span : Span}
    (rule : binaryType op lt rt l.span r.span span = .ok t)
    (value : ((binary op l r span).evaluate scope).1 = .ok v) (other : ∀ a, op ≠ .arithmetic a) :
    v.type = t := by
  have boolean : v.type = .boolean := by
    obtain ⟨a, -, settled | ⟨-, b, -, applied⟩⟩ := evaluate_binary_ok value
    · exact Operator.settled?_ok_boolean settled
    · exact Operator.apply_ok_boolean other applied
  have typed := binaryType_ok rule
  cases op with
  | arithmetic a => exact absurd rfl (other a)
  | eq | ne => rw [boolean, typed.2]
  | order o => rw [boolean, typed.2.2.2]
  | and | or => rw [boolean, typed.2.2]

theorem evaluate_call1_number {f : Function1} {a : Expr} {span : Span}
    (value : ((call1 f a span).evaluate scope).1 = .ok v) : v.type = .number := by
  obtain ⟨_, -, h⟩ := bind_ok.mp value
  obtain ⟨_, -, h⟩ := bind_ok.mp h
  obtain ⟨_, -, h⟩ := bind_ok.mp h
  cases pure_ok.mp h
  rfl

theorem evaluate_call2_number {f : Function2} {a b : Expr} {span : Span}
    (value : ((call2 f a b span).evaluate scope).1 = .ok v) : v.type = .number := by
  simp only [evaluate] at value
  split at value
  · cases value
  · obtain ⟨_, -, h⟩ := bind_ok.mp value
    obtain ⟨_, -, h⟩ := bind_ok.mp h
    obtain ⟨_, -, h⟩ := bind_ok.mp h
    cases pure_ok.mp h
    rfl

theorem scales_iff {op : ArithmeticOperator} {l r : Expr} {lt rt : AnswerType} {a b : Value}
    (left : l.type env = .ok lt) (right : r.type env = .ok rt)
    (first : (l.evaluate scope).1 = .ok a) (second : (r.evaluate scope).1 = .ok b) :
    AnswerType.Scales op lt rt a.type b.type ↔ ScalesSpan env scope op l r := by
  simp only [ScalesSpan, UntypedSpan, left, right, first, second, Except.ok.injEq,
    ← Value.type_eq_timeSpan]
  cases op <;> simp [AnswerType.Scales, and_assoc]

/-- The type admits the value, and is mistaken in it where an untyped span is scaled. -/
def Judged (env : TypeEnv) (scope : Scope) (e : Expr) (t : AnswerType) (v : Value) : Prop :=
  t.Admits v.type ∧ (t.Mistaken v.type ↔ e.ScalesUntyped env scope)

theorem judged_of_same (same : v.type = t) (none : ¬e.ScalesUntyped env scope) :
    Judged env scope e t v :=
  ⟨.inr (.inl same), iff_of_false (same ▸ AnswerType.not_mistaken _) none⟩

theorem judged_arithmetic {op : ArithmeticOperator} {l r : Expr} {span : Span}
    {lt rt : AnswerType} {a b : Value}
    (left : l.type env = .ok lt) (right : r.type env = .ok rt)
    (first : (l.evaluate scope).1 = .ok a) (second : (r.evaluate scope).1 = .ok b)
    (judgedLeft : Judged env scope l lt a) (judgedRight : Judged env scope r rt b)
    (rule : AnswerType.arithmetic? op lt rt = some t) (applied : a.compute op b = .ok v) :
    Judged env scope (binary (.arithmetic op) l r span) t v := by
  obtain ⟨known, known', combined⟩ := Value.compute_ok applied
  obtain ⟨admits, mistaken⟩ :=
    AnswerType.arithmetic?_mistaken judgedLeft.1 judgedRight.1 known known' rule combined
  refine ⟨admits, mistaken.trans ?_⟩
  rw [scales_iff left right first second, judgedLeft.2, judgedRight.2]
  rfl

theorem judged_value (respects : scope.Respects env) (checked : e.type env = .ok t)
    (value : (e.evaluate scope).1 = .ok v) : Judged env scope e t v := by
  induction e generalizing t v with
  | literal w span =>
    cases checked
    cases value
    exact judged_of_same rfl id
  | ref name span =>
    simp only [type] at checked
    split at checked
    · rename_i declared
      cases checked
      cases found : scope name with
      | none =>
        simp only [evaluate, found] at value
        cases value
      | some w =>
        simp only [evaluate, found] at value
        cases value
        by_cases untyped : t = .unknown
        · subst untyped
          exact ⟨.inl rfl, iff_of_false (by simp [AnswerType.Mistaken]) id⟩
        · exact judged_of_same (respects name t declared untyped v found) id
    · cases checked
  | unary op e span ih =>
    obtain ⟨u, operand, rule⟩ := bind_ok.mp checked
    obtain ⟨a, below, applied⟩ := bind_ok.mp value
    cases op with
    | not =>
      obtain ⟨-, rfl⟩ := unaryType_ok rule
      exact judged_of_same (UnaryOperator.apply_not_ok applied) id
    | neg =>
      obtain ⟨-, rfl⟩ := unaryType_ok rule
      have same := UnaryOperator.apply_neg_ok applied
      unfold Judged
      rw [same]
      exact ih operand below
  | binary op l r span ihl ihr =>
    obtain ⟨lt, left, h⟩ := bind_ok.mp checked
    obtain ⟨rt, right, rule⟩ := bind_ok.mp h
    obtain ⟨a, first, settles⟩ := evaluate_binary_ok value
    cases op with
    | arithmetic op =>
      obtain settled | ⟨-, b, second, applied⟩ := settles
      · cases settled
      · exact judged_arithmetic left right first second (ihl left first) (ihr right second)
          (binaryType_ok rule) applied
    | _ => exact judged_of_same (evaluate_boolean rule value (by simp)) id
  | call1 f a span ih =>
    obtain ⟨_, -, h⟩ := bind_ok.mp checked
    obtain ⟨_, -, h⟩ := bind_ok.mp h
    cases pure_ok.mp h
    exact judged_of_same (evaluate_call1_number value) id
  | call2 f a b span iha ihb =>
    obtain ⟨_, -, h⟩ := bind_ok.mp checked
    obtain ⟨_, -, h⟩ := bind_ok.mp h
    obtain ⟨_, -, h⟩ := bind_ok.mp h
    obtain ⟨_, -, h⟩ := bind_ok.mp h
    cases pure_ok.mp h
    exact judged_of_same (evaluate_call2_number value) id

/-- The value of an expression has its type, unless an untyped span is scaled in its arithmetic.
Then the span, or the moment that it was added to, was taken for a number. -/
theorem type_of_value_iff (respects : scope.Respects env) (checked : e.type env = .ok t)
    (known : t ≠ .unknown) (value : (e.evaluate scope).1 = .ok v) :
    (v.type = t ↔ ¬e.ScalesUntyped env scope) ∧
      (v.type ≠ t → t = .number ∧ (v.type = .timeSpan ∨ v.type = .moment)) := by
  obtain ⟨admits, mistaken⟩ := judged_value respects checked value
  have stray : v.type ≠ t → t = .number ∧ (v.type = .timeSpan ∨ v.type = .moment) :=
    fun other => (admits.resolve_left known).resolve_left other
  refine ⟨⟨fun same scales => ?_, fun none => ?_⟩, stray⟩
  · have taken := mistaken.mpr scales
    exact taken.2 (same.trans taken.1)
  · by_contra other
    obtain ⟨number, span⟩ := stray other
    exact none (mistaken.mp ⟨number, number ▸ other⟩)

def freeEnv : TypeEnv := fun name =>
  if name = "inkomen" then some .number else if name = "vrij" then some .unknown else none

def freeScope (v : Value) : Scope := fun name =>
  if name = "inkomen" then some (.ofText "1000") else if name = "vrij" then some v else none

theorem freeScope_respects (v : Value) : (freeScope v).Respects freeEnv := by
  intro name t declared known w found
  unfold freeEnv at declared
  unfold freeScope at found
  split at declared
  · rename_i income
    rw [if_pos income] at found
    cases declared
    cases found
    decide
  · split at declared
    · cases declared
      exact absurd rfl known
    · cases declared

theorem type_of_value_iff_free : ∃ f v,
    Formula.ofText "inkomen - vrij * 2" = .ok f ∧ (freeScope (.ofText "30")).Respects freeEnv ∧
    f.root.type freeEnv = .ok .number ∧ AnswerType.number ≠ .unknown ∧
    (f.root.evaluate (freeScope (.ofText "30"))).1 = .ok v ∧
    (v.type = .number ↔ ¬f.root.ScalesUntyped freeEnv (freeScope (.ofText "30"))) ∧
    (v.type ≠ .number → AnswerType.number = .number ∧ (v.type = .timeSpan ∨ v.type = .moment)) := by
  have read : (Formula.ofText "inkomen - vrij * 2").map (fun f =>
      (f.root.type freeEnv, (f.root.evaluate (freeScope (.ofText "30"))).1)) =
      .ok (.ok .number, .ok (Value.ofText "940")) := by
    decide +kernel
  obtain ⟨f, made, checked⟩ := map_ok.mp read
  have typed := congrArg Prod.fst checked
  have value := congrArg Prod.snd checked
  exact ⟨f, _, made, freeScope_respects _, typed, nofun, value,
    type_of_value_iff (freeScope_respects _) typed nofun value⟩

/-- Types are not right of all untyped names: the double of an untyped hour has the type of numbers
and is a span. -/
theorem untyped_hour_mistaken :
    ¬∀ (text : String) (f : Formula) (env : TypeEnv) (scope : Scope) (t : AnswerType) (v : Value),
      Formula.ofText text = .ok f →
      (∀ name u w, env name = some u → scope name = some w →
        w.type ≠ .unknown ∧ (u ≠ .unknown → w.type = u)) →
      f.root.type env = .ok t → t ≠ .unknown → (f.root.evaluate scope).1 = .ok v → v.type = t := by
  intro claim
  have read : (Formula.ofText "vrij * 2").map (fun f =>
      (f.root.type freeEnv, (f.root.evaluate (freeScope (.ofText "01:00"))).1)) =
      .ok (.ok .number, .ok (Value.ofText "02:00")) := by
    decide +kernel
  obtain ⟨f, made, checked⟩ := map_ok.mp read
  have concrete : ∀ name w, freeScope (.ofText "01:00") name = some w → w.type ≠ .unknown := by
    intro name w found
    unfold freeScope at found
    split at found
    · cases found
      decide
    · split at found <;> cases found
      decide
  have same := claim "vrij * 2" f freeEnv (freeScope (.ofText "01:00")) .number _ made
    (fun name u w declared found => ⟨concrete name w found, fun known =>
      freeScope_respects _ name u declared known w found⟩)
    (congrArg Prod.fst checked) nofun (congrArg Prod.snd checked)
  have other : (Value.ofText "02:00").type ≠ .number := by decide
  exact other same

end Expr

end Questionnaire
