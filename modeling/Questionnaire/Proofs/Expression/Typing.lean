import Questionnaire.Expression.Evaluation
import Questionnaire.Expression.Typing
import Questionnaire.Proofs.Outcome

/-!
What the type of an expression says about its value.

Where every name has a concrete type and a value of that type, if it has a value, a well-typed
expression has a value of its type, misses a name, or leaves the range of its arithmetic. It never
fails because of a type: `Expr.evaluate_gives`.
-/

namespace Questionnaire

/-! ### Computations without type faults -/

/-- A computation that gives such a result, or fails for another reason than a type. -/
def Gives {α : Type} (P : α → Prop) : Except EvalError α → Prop
  | .ok a => P a
  | .error (.type _) => False
  | .error _ => True

section

variable {α β : Type} {P : α → Prop} {Q : β → Prop} {x : Except EvalError α}

@[simp] theorem gives_ok {a : α} : Gives P (.ok a) ↔ P a := Iff.rfl

@[simp] theorem gives_type {fault : TypeFault} : ¬Gives P (.error (.type fault)) := id

@[simp] theorem gives_missing {name : String} : Gives P (.error (.missing name)) := trivial

@[simp] theorem gives_arithmetic {fault : ArithmeticFault} : Gives P (.error (.arithmetic fault)) :=
  trivial

theorem Gives.of_ok {a : α} (gives : Gives P x) (h : x = .ok a) : P a := by
  subst h
  exact gives

theorem Gives.of_error {e : EvalError} (gives : Gives P x) (h : x = .error e) :
    Gives Q (.error e) := by
  subst h
  cases e with
  | type => exact gives.elim
  | _ => trivial

theorem Gives.map {f : α → β} (gives : Gives P x) (next : ∀ a, P a → Q (f a)) : Gives Q (x.map f) := by
  cases x with
  | ok a => exact next a gives
  | error e => exact gives.of_error rfl

theorem Gives.bind {f : α → Except EvalError β} (gives : Gives P x) (next : ∀ a, P a → Gives Q (f a)) :
    Gives Q (x >>= f) := by
  cases x with
  | ok a => exact next a gives
  | error e => exact gives.of_error rfl

theorem gives_orFault {fault : ArithmeticFault} {a : Option α} :
    Gives (fun _ => True) (orFault fault a) := by
  cases a <;> trivial

end

/-! ### Operators -/

theorem Decimal.gives_compute (op : ArithmeticOperator) (a b : Decimal) :
    Gives (fun _ => True) (a.compute op b) := by
  cases op with
  | div =>
    simp only [compute]
    split
    · trivial
    · exact gives_orFault
  | _ => exact gives_orFault

theorem Decimal.gives_roundTo (d digits : Decimal) : Gives (fun _ => True) (d.roundTo digits) := by
  unfold roundTo
  split <;> trivial

theorem TimeSpan.gives_scale (t : TimeSpan) (factor : Decimal) (op : ArithmeticOperator) :
    Gives (fun _ => True) (t.scale factor op) :=
  gives_orFault.bind fun _ _ => (Decimal.gives_compute op _ _).bind fun _ _ => gives_orFault

variable {a b v : Value} {t : AnswerType}

theorem Value.type_eq_boolean : v.type = .boolean ↔ ∃ b, v = .boolean b := by
  cases v <;> simp [type]

theorem Value.type_eq_number : v.type = .number ↔ ∃ d, v = .number d := by
  cases v <;> simp [type]

theorem Value.type_eq_moment : v.type = .moment ↔ ∃ m, v = .moment m := by
  cases v <;> simp [type]

theorem Value.type_eq_timeSpan : v.type = .timeSpan ↔ ∃ t, v = .timeSpan t := by
  cases v <;> simp [type]

/-- What an arithmetic operator computes has the type that is foreseen for it. -/
theorem Value.gives_compute {op : ArithmeticOperator} (left : a.type ≠ .unknown)
    (right : b.type ≠ .unknown) (h : AnswerType.arithmetic? op a.type b.type = some t) :
    Gives (·.type = t) (a.compute op b) := by
  generalize first : a.type = l at h left
  generalize second : b.type = r at h right
  unfold AnswerType.arithmetic? at h
  -- The rows for two concrete types are those that `compute` has, in the same order.
  split at h <;> cases h
  case h_1.refl =>
    obtain ⟨x, rfl⟩ := type_eq_number.mp first
    obtain ⟨y, rfl⟩ := type_eq_number.mp second
    exact (Decimal.gives_compute _ x y).map fun _ _ => rfl
  case h_2.refl | h_3.refl =>
    obtain ⟨x, rfl⟩ := type_eq_timeSpan.mp first
    obtain ⟨y, rfl⟩ := type_eq_timeSpan.mp second
    exact gives_orFault.map fun _ _ => rfl
  case h_4.refl | h_5.refl =>
    obtain ⟨x, rfl⟩ := type_eq_moment.mp first
    obtain ⟨y, rfl⟩ := type_eq_timeSpan.mp second
    exact gives_orFault.map fun _ _ => rfl
  case h_6.refl =>
    obtain ⟨x, rfl⟩ := type_eq_timeSpan.mp first
    obtain ⟨y, rfl⟩ := type_eq_moment.mp second
    exact gives_orFault.map fun _ _ => rfl
  case h_7.refl =>
    obtain ⟨x, rfl⟩ := type_eq_moment.mp first
    obtain ⟨y, rfl⟩ := type_eq_moment.mp second
    exact gives_orFault.map fun _ _ => rfl
  case h_8.refl | h_10.refl =>
    obtain ⟨x, rfl⟩ := type_eq_timeSpan.mp first
    obtain ⟨y, rfl⟩ := type_eq_number.mp second
    exact (TimeSpan.gives_scale x y _).map fun _ _ => rfl
  case h_9.refl =>
    obtain ⟨x, rfl⟩ := type_eq_number.mp first
    obtain ⟨y, rfl⟩ := type_eq_timeSpan.mp second
    exact (TimeSpan.gives_scale y x _).map fun _ _ => rfl
  all_goals contradiction

theorem Value.order?_isSome (same : a.type = b.type) (known : a.type ≠ .unknown)
    (ordered : a.type.isOrdered = true) : (order? a b).isSome := by
  cases a <;> simp [type, AnswerType.isOrdered] at ordered known <;> cases b <;> simp [type] at same
    <;> rfl

theorem Value.gives_compareBy_order {op : OrderOperator} (same : a.type = b.type)
    (known : a.type ≠ .unknown) (ordered : a.type.isOrdered = true) :
    Gives (fun _ => True) (a.compareBy (.order op) b) := by
  obtain ⟨o, found⟩ := Option.isSome_iff_exists.mp (order?_isSome same known ordered)
  simp only [compareBy, found, Operator.compareAs, gives_ok]

theorem Value.gives_compareBy_eq : Gives (fun _ => True) (a.compareBy .eq b) := by
  unfold compareBy
  split <;> trivial

theorem Value.gives_compareBy_ne : Gives (fun _ => True) (a.compareBy .ne b) := by
  unfold compareBy
  split <;> trivial

theorem Operator.gives_truth {op : Operator} (boolean : v.type = .boolean) :
    Gives (fun _ => True) (op.truth v) := by
  obtain ⟨b, rfl⟩ := Value.type_eq_boolean.mp boolean
  trivial

/-! ### The rules of types, read off an accepted operator -/

section

variable {op : Operator} {l r : AnswerType} {left right operand whole : Span}

theorem AnswerType.isBoolean_iff : t.isBoolean = true ↔ t = .boolean ∨ t = .unknown := by
  simp [isBoolean]

theorem AnswerType.fits_iff : l.fits r = true ↔ l = r ∨ l = .unknown ∨ r = .unknown := by
  simp [fits, or_assoc]

theorem AnswerType.arithmetic?_known {op : ArithmeticOperator} (first : l ≠ .unknown)
    (second : r ≠ .unknown) (h : arithmetic? op l r = some t) : t ≠ .unknown := by
  unfold arithmetic? at h
  split at h <;> cases h <;> first | contradiction | exact nofun

theorem Expr.binaryType_ok (h : binaryType op l r left right whole = .ok t) :
    match op with
    | .and | .or => l.isBoolean = true ∧ r.isBoolean = true ∧ t = .boolean
    | .eq | .ne => l.fits r = true ∧ t = .boolean
    | .order _ => l.isOrdered = true ∧ r.isOrdered = true ∧ l.fits r = true ∧ t = .boolean
    | .arithmetic a => AnswerType.arithmetic? a l r = some t := by
  cases op with
  | arithmetic a =>
    simp only [binaryType] at h
    split at h
    · cases h
      assumption
    · cases h
  | order o =>
    simp only [binaryType] at h
    split at h
    · rename_i both
      cases h
      simpa [and_assoc] using both
    · cases h
  | eq | ne =>
    simp only [binaryType] at h
    split at h
    · cases h
      exact ⟨‹_›, rfl⟩
    · cases h
  | and | or =>
    simp only [binaryType] at h
    split at h
    · cases h
    · split at h
      · cases h
      · cases h
        simp_all

theorem Expr.unaryType_ok {op : UnaryOperator} (h : unaryType op l operand whole = .ok t) :
    match op with
    | .neg => (l = .number ∨ l = .timeSpan ∨ l = .unknown) ∧ t = l
    | .not => l.isBoolean = true ∧ t = .boolean := by
  cases op with
  | neg =>
    simp only [unaryType] at h
    split at h
    · cases h
      exact ⟨‹_›, rfl⟩
    · cases h
  | not =>
    simp only [unaryType] at h
    split at h
    · cases h
      exact ⟨‹_›, rfl⟩
    · cases h

theorem Expr.checkArgument_ok {function : String} (h : checkArgument function l operand = .ok ()) :
    l = .number ∨ l = .unknown := by
  unfold checkArgument at h
  split at h
  · assumption
  · cases h

/-! ### Operators on values of the types that were checked -/

theorem Operator.binaryType_known (first : l ≠ .unknown) (second : r ≠ .unknown)
    (h : Expr.binaryType op l r left right whole = .ok t) : t ≠ .unknown := by
  have rule := Expr.binaryType_ok h
  cases op with
  | arithmetic a => exact AnswerType.arithmetic?_known first second rule
  | order | and | or => simp [rule.2]
  | eq | ne => simp [rule.2]

/-- The left operand of a connective settles its outcome with a truth value. -/
theorem Operator.gives_settled? (known : a.type ≠ .unknown)
    (h : Expr.binaryType op a.type r left right whole = .ok t) :
    Gives (fun settled => ∀ w ∈ settled, w.type = t) (op.settled? a) := by
  have rule := Expr.binaryType_ok h
  cases op with
  | and | or =>
    obtain ⟨boolean, _, rfl⟩ := rule
    obtain ⟨b, rfl⟩ := Value.type_eq_boolean.mp
      ((AnswerType.isBoolean_iff.mp boolean).resolve_right known)
    cases b <;> simp [settled?, truth, Except.map, Value.type]
  | _ => simp [settled?]

theorem Operator.gives_apply (first : a.type ≠ .unknown) (second : b.type ≠ .unknown)
    (h : Expr.binaryType op a.type b.type left right whole = .ok t) :
    Gives (·.type = t) (op.apply a b) := by
  have rule := Expr.binaryType_ok h
  cases op with
  | arithmetic op => exact Value.gives_compute first second rule
  | and | or =>
    obtain ⟨_, boolean, rfl⟩ := rule
    exact (gives_truth ((AnswerType.isBoolean_iff.mp boolean).resolve_right second)).map
      fun _ _ => rfl
  | eq =>
    obtain ⟨_, rfl⟩ := rule
    exact Value.gives_compareBy_eq.map fun _ _ => rfl
  | ne =>
    obtain ⟨_, rfl⟩ := rule
    exact Value.gives_compareBy_ne.map fun _ _ => rfl
  | order o =>
    obtain ⟨ordered, _, fits, rfl⟩ := rule
    have same : a.type = b.type := by
      rcases AnswerType.fits_iff.mp fits with same | unknown | unknown
      · exact same
      · exact absurd unknown first
      · exact absurd unknown second
    exact (Value.gives_compareBy_order same first ordered).map fun _ _ => rfl

theorem UnaryOperator.unaryType_known {op : UnaryOperator} (known : l ≠ .unknown)
    (h : Expr.unaryType op l operand whole = .ok t) : t ≠ .unknown := by
  have rule := Expr.unaryType_ok h
  cases op with
  | neg => exact rule.2 ▸ known
  | not => simp [rule.2]

theorem UnaryOperator.gives_apply {op : UnaryOperator} (known : v.type ≠ .unknown)
    (h : Expr.unaryType op v.type operand whole = .ok t) : Gives (·.type = t) (op.apply v) := by
  have rule := Expr.unaryType_ok h
  cases op with
  | not =>
    obtain ⟨boolean, rfl⟩ := rule
    obtain ⟨b, rfl⟩ := Value.type_eq_boolean.mp
      ((AnswerType.isBoolean_iff.mp boolean).resolve_right known)
    rfl
  | neg =>
    obtain ⟨number | timeSpan | unknown, rfl⟩ := rule
    · obtain ⟨d, rfl⟩ := Value.type_eq_number.mp number
      rfl
    · obtain ⟨s, rfl⟩ := Value.type_eq_timeSpan.mp timeSpan
      exact gives_orFault.map fun _ _ => rfl
    · exact absurd unknown known

theorem gives_argument {function : String} (known : v.type ≠ .unknown)
    (h : Expr.checkArgument function v.type operand = .ok ()) :
    Gives (fun _ => True) (argument function v) := by
  obtain ⟨d, rfl⟩ := Value.type_eq_number.mp ((Expr.checkArgument_ok h).resolve_right known)
  trivial

end

theorem Function1.gives_apply (f : Function1) (d : Decimal) :
    Gives (fun _ => True) (f.apply d) := by
  cases f with
  | abs => trivial
  | round => exact d.gives_roundTo .zero

theorem Function2.gives_apply (f : Function2) (d e : Decimal) :
    Gives (fun _ => True) (f.apply d e) := by
  cases f with
  | round => exact d.gives_roundTo e
  | _ => trivial

/-! ### Expressions -/

/-- Every name of the environment has a concrete type, and a value of that type if it has one. -/
def Scope.Fits (scope : Scope) (env : TypeEnv) : Prop :=
  ∀ name t, env name = some t → t ≠ .unknown ∧ ∀ v, scope name = some v → v.type = t

namespace Expr

/-- All literals of an expression are values. -/
def KnownLiterals : Expr → Prop
  | literal v _ => v.type ≠ .unknown
  | ref _ _ => True
  | unary _ e _ => e.KnownLiterals
  | binary _ l r _ => l.KnownLiterals ∧ r.KnownLiterals
  | call1 _ a _ => a.KnownLiterals
  | call2 _ a b _ => a.KnownLiterals ∧ b.KnownLiterals

variable {env other : TypeEnv} {scope : Scope} {e : Expr}

theorem type_congr (agree : ∀ name ∈ e.names, other name = env name) :
    e.type other = e.type env := by
  induction e with
  | literal v span => rfl
  | ref name span => simp only [type, agree name (List.mem_singleton.mpr rfl)]
  | unary op e span ih => simp only [type, ih agree]
  | binary op l r span ihl ihr =>
    simp only [type, ihl fun name member => agree name (List.mem_append_left _ member),
      ihr fun name member => agree name (List.mem_append_right _ member)]
  | call1 f a span ih => simp only [type, ih agree]
  | call2 f a b span iha ihb =>
    simp only [type, iha fun name member => agree name (List.mem_append_left _ member),
      ihb fun name member => agree name (List.mem_append_right _ member)]

/-- Both operands give values of their types, the right one if it is evaluated. -/
theorem gives_binary {op : Operator} {l r : Expr} {span : Span} {lt rt : AnswerType}
    (knownLeft : lt ≠ .unknown) (knownRight : rt ≠ .unknown)
    (givesLeft : Gives (·.type = lt) (l.evaluate scope).1)
    (givesRight : Gives (·.type = rt) (r.evaluate scope).1)
    (rule : binaryType op lt rt l.span r.span span = .ok t) :
    Gives (·.type = t) ((binary op l r span).evaluate scope).1 := by
  cases first : (l.evaluate scope).1 with
  | error e =>
    simp only [evaluate, first]
    exact givesLeft.of_error first
  | ok a =>
    have typed : a.type = lt := givesLeft.of_ok first
    subst typed
    have settles := op.gives_settled? knownLeft rule
    cases settled : op.settled? a with
    | error e =>
      simp only [evaluate, first, settled]
      exact settles.of_error settled
    | ok outcome =>
      cases outcome with
      | some v =>
        simp only [evaluate, first, settled]
        exact settles.of_ok settled v rfl
      | none =>
        simp only [evaluate, first, settled]
        refine givesRight.bind fun b typed => ?_
        subst typed
        exact op.gives_apply knownLeft knownRight rule

/-- A function of the argument that was checked gives a number. -/
theorem gives_call {function : String} {value : Except EvalError Value} {u : AnswerType} {span : Span}
    {apply : Decimal → Except EvalError Decimal} (known : u ≠ .unknown)
    (gives : Gives (·.type = u) value) (rule : checkArgument function u span = .ok ())
    (applied : ∀ d, Gives (fun _ => True) (apply d)) :
    Gives (fun v : Value => v.type = .number) (do
      let d ← argument function (← value)
      return .number (← apply d)) := by
  refine gives.bind fun v typed => ?_
  subst typed
  exact (gives_argument known rule).bind fun d _ => (applied d).bind fun _ _ => rfl

theorem gives_call2 {f : Function2} {a b : Expr} {span : Span} {u w : AnswerType}
    (knownFirst : u ≠ .unknown) (knownSecond : w ≠ .unknown)
    (givesFirst : Gives (·.type = u) (a.evaluate scope).1)
    (givesSecond : Gives (·.type = w) (b.evaluate scope).1)
    (firstRule : checkArgument f.name u a.span = .ok ())
    (secondRule : checkArgument f.name w b.span = .ok ()) :
    Gives (·.type = .number) ((call2 f a b span).evaluate scope).1 := by
  have number : Gives (fun _ => True) ((a.evaluate scope).1.bind (argument f.name)) := by
    refine givesFirst.bind fun v typed => ?_
    subst typed
    exact gives_argument knownFirst firstRule
  cases first : (a.evaluate scope).1.bind (argument f.name) with
  | error e =>
    simp only [evaluate, first]
    exact number.of_error first
  | ok x =>
    simp only [evaluate, first]
    exact gives_call knownSecond givesSecond secondRule fun y => f.gives_apply x y

/-- A well-typed expression has a concrete type, and it never fails because of a type: what it gives
is a value of its type. -/
theorem evaluate_gives (fits : scope.Fits env) (literals : e.KnownLiterals)
    (checked : e.type env = .ok t) :
    t ≠ .unknown ∧ Gives (·.type = t) (e.evaluate scope).1 := by
  induction e generalizing t with
  | literal v span =>
    cases checked
    exact ⟨literals, rfl⟩
  | ref name span =>
    simp only [type] at checked
    split at checked
    · rename_i declared
      cases checked
      obtain ⟨known, typed⟩ := fits name t declared
      refine ⟨known, ?_⟩
      cases found : scope name with
      | none => simp [evaluate, found]
      | some v => simpa [evaluate, found] using typed v found
    · cases checked
  | unary op e span ih =>
    obtain ⟨u, operand, rule⟩ := bind_ok.mp checked
    obtain ⟨known, gives⟩ := ih literals operand
    refine ⟨UnaryOperator.unaryType_known known rule, gives.bind fun v typed => ?_⟩
    subst typed
    exact op.gives_apply known rule
  | binary op l r span ihl ihr =>
    obtain ⟨lt, left, h⟩ := bind_ok.mp checked
    obtain ⟨rt, right, rule⟩ := bind_ok.mp h
    obtain ⟨knownLeft, givesLeft⟩ := ihl literals.1 left
    obtain ⟨knownRight, givesRight⟩ := ihr literals.2 right
    exact ⟨Operator.binaryType_known knownLeft knownRight rule,
      gives_binary knownLeft knownRight givesLeft givesRight rule⟩
  | call1 f a span ih =>
    obtain ⟨u, operand, h⟩ := bind_ok.mp checked
    obtain ⟨_, rule, h⟩ := bind_ok.mp h
    obtain ⟨known, gives⟩ := ih literals operand
    cases pure_ok.mp h
    exact ⟨nofun, gives_call known gives rule f.gives_apply⟩
  | call2 f a b span iha ihb =>
    obtain ⟨u, first, h⟩ := bind_ok.mp checked
    obtain ⟨_, firstRule, h⟩ := bind_ok.mp h
    obtain ⟨w, second, h⟩ := bind_ok.mp h
    obtain ⟨_, secondRule, h⟩ := bind_ok.mp h
    cases pure_ok.mp h
    obtain ⟨knownFirst, givesFirst⟩ := iha literals.1 first
    obtain ⟨knownSecond, givesSecond⟩ := ihb literals.2 second
    exact ⟨nofun,
      gives_call2 knownFirst knownSecond givesFirst givesSecond firstRule secondRule⟩

end Expr

end Questionnaire
