import Questionnaire.Expression.Evaluation
import Questionnaire.Proofs.Outcome

/-!
What the names that an evaluation reads say about it.

An evaluation depends on its scope through the names that it reads and on nothing else. Where it has a
value, all of them have one; where it misses a name, that is the last one that it read.
-/

namespace Questionnaire

theorem mem_distinctNames {names : List String} {name : String} :
    name ∈ distinctNames names ↔ name ∈ names := by
  have fold (names : List String) : ∀ before : List String,
      name ∈ names.foldl record before ↔ name ∈ before ∨ name ∈ names := by
    induction names with
    | nil => simp
    | cons other rest ih =>
      intro before
      rw [List.foldl_cons, ih, record]
      split
      · rename_i present
        constructor
        · rintro (old | later)
          · exact Or.inl old
          · exact Or.inr (List.mem_cons_of_mem _ later)
        · rintro (old | here)
          · exact Or.inl old
          · rcases List.mem_cons.mp here with rfl | later
            · exact Or.inl present
            · exact Or.inr later
      · simp [or_assoc]
  simpa [distinctNames] using fold names []

/-! ### Computing misses no name -/

/-- A computation that fails for another reason than a name, if it fails. -/
def NeedsNoName {α : Type} (x : Except EvalError α) : Prop := ∀ name, x ≠ .error (.missing name)

section

variable {α β : Type} {x : Except EvalError α}

@[simp] theorem needsNoName_ok {a : α} : NeedsNoName (.ok a : Except EvalError α) := by
  simp [NeedsNoName]

@[simp] theorem needsNoName_type {fault : TypeFault} :
    NeedsNoName (.error (.type fault) : Except EvalError α) := by
  simp [NeedsNoName]

@[simp] theorem needsNoName_arithmetic {fault : ArithmeticFault} :
    NeedsNoName (.error (.arithmetic fault) : Except EvalError α) := by
  simp [NeedsNoName]

@[simp] theorem needsNoName_map {f : α → β} : NeedsNoName (x.map f) ↔ NeedsNoName x := by
  cases x <;> simp [NeedsNoName, Except.map]

theorem NeedsNoName.bind {f : α → Except EvalError β} (first : NeedsNoName x)
    (next : ∀ a, NeedsNoName (f a)) : NeedsNoName (x >>= f) := by
  cases x with
  | ok a => exact next a
  | error e => simpa [NeedsNoName, Bind.bind, Except.bind] using first

theorem missing_of_bind {f : α → Except EvalError β} {name : String}
    (next : ∀ a, NeedsNoName (f a)) (h : x >>= f = .error (.missing name)) :
    x = .error (.missing name) := by
  cases x with
  | ok a => exact absurd h (next a name)
  | error e => simpa [Bind.bind, Except.bind] using h

@[simp] theorem needsNoName_orFault {fault : ArithmeticFault} {a : Option α} :
    NeedsNoName (orFault fault a) := by
  cases a <;> simp [orFault]

end

theorem Decimal.needsNoName_compute {op : ArithmeticOperator} {a b : Decimal} :
    NeedsNoName (a.compute op b) := by
  cases op with
  | div =>
    simp only [compute]
    split <;> simp
  | _ => simp [compute]

theorem Decimal.needsNoName_roundTo {d digits : Decimal} : NeedsNoName (d.roundTo digits) := by
  unfold roundTo
  split <;> simp

theorem TimeSpan.needsNoName_scale {t : TimeSpan} {factor : Decimal} {op : ArithmeticOperator} :
    NeedsNoName (t.scale factor op) := by
  refine needsNoName_orFault.bind fun _ => ?_
  exact Decimal.needsNoName_compute.bind fun _ => needsNoName_orFault

theorem Value.needsNoName_compute {op : ArithmeticOperator} {a b : Value} :
    NeedsNoName (a.compute op b) := by
  unfold compute
  split <;> simp [Decimal.needsNoName_compute, TimeSpan.needsNoName_scale]

theorem Value.needsNoName_compareBy {op : Operator} {a b : Value} :
    NeedsNoName (a.compareBy op b) := by
  unfold compareBy
  split
  · cases op <;> simp [Operator.compareAs]
  · split <;> simp

theorem Operator.needsNoName_truth {op : Operator} {v : Value} : NeedsNoName (op.truth v) := by
  cases v <;> simp [truth]

theorem Operator.needsNoName_settled? {op : Operator} {v : Value} : NeedsNoName (op.settled? v) := by
  cases op <;> simp [settled?, needsNoName_truth]

theorem Operator.needsNoName_apply {op : Operator} {a b : Value} : NeedsNoName (op.apply a b) := by
  cases op <;>
    simp [apply, needsNoName_truth, Value.needsNoName_compute, Value.needsNoName_compareBy]

theorem UnaryOperator.needsNoName_apply {op : UnaryOperator} {v : Value} :
    NeedsNoName (op.apply v) := by
  cases op <;> cases v <;> simp [apply]

theorem needsNoName_argument {function : String} {v : Value} :
    NeedsNoName (argument function v) := by
  cases v <;> simp [argument]

theorem Function1.needsNoName_apply {f : Function1} {d : Decimal} : NeedsNoName (f.apply d) := by
  cases f <;> simp [apply, Decimal.needsNoName_roundTo]

theorem Function2.needsNoName_apply {f : Function2} {a b : Decimal} :
    NeedsNoName (f.apply a b) := by
  cases f <;> simp [apply, Decimal.needsNoName_roundTo]

/-! ### What is read -/

namespace Expr

variable {scope other : Scope} {e l r : Expr} {op : Operator} {span : Span} {v : Value}
  {name : String}

theorem reads_binary_left (member : name ∈ (l.evaluate scope).2) :
    name ∈ ((binary op l r span).evaluate scope).2 := by
  simp only [evaluate]
  split
  · exact member
  · split
    · exact member
    · exact member
    · exact List.mem_append_left _ member

theorem reads_call2_first {f : Function2} (member : name ∈ (l.evaluate scope).2) :
    name ∈ ((call2 f l r span).evaluate scope).2 := by
  simp only [evaluate]
  split
  · exact member
  · exact List.mem_append_left _ member

/-- Scopes that agree on the names that are read in one of them give the same evaluation. -/
theorem evaluate_congr (agree : ∀ name ∈ (e.evaluate scope).2, other name = scope name) :
    e.evaluate other = e.evaluate scope := by
  induction e with
  | literal v span => rfl
  | ref name span =>
    have same : other name = scope name := by
      refine agree name ?_
      simp only [evaluate]
      split <;> exact List.mem_singleton.mpr rfl
    simp only [evaluate, same]
  | unary op e span ih => simp only [evaluate, ih agree]
  | binary op l r span ihl ihr =>
    have left := ihl fun name member => agree name (reads_binary_left member)
    -- The right operand is read only if the left one does not settle the outcome.
    cases first : (l.evaluate scope).1 with
    | error e => simp only [evaluate, left, first]
    | ok a =>
      cases settled : op.settled? a with
      | error e => simp only [evaluate, left, first, settled]
      | ok outcome =>
        cases outcome with
        | some v => simp only [evaluate, left, first, settled]
        | none =>
          simp only [evaluate, first, settled] at agree
          have right := ihr fun name member => agree name (List.mem_append_right _ member)
          simp only [evaluate, left, first, settled, right]
  | call1 f a span ih => simp only [evaluate, ih agree]
  | call2 f a b span iha ihb =>
    have left := iha fun name member => agree name (reads_call2_first member)
    cases first : (a.evaluate scope).1.bind (argument f.name) with
    | error e => simp only [evaluate, left, first]
    | ok x =>
      simp only [evaluate, first] at agree
      have right := ihb fun name member => agree name (List.mem_append_right _ member)
      simp only [evaluate, left, first, right]

/-- Where there is a value, every name that was read has one. -/
theorem reads_resolved (h : (e.evaluate scope).1 = .ok v) :
    ∀ name ∈ (e.evaluate scope).2, (scope name).isSome := by
  induction e generalizing v with
  | literal v span => simp [evaluate]
  | ref name span =>
    cases found : scope name with
    | none => simp [evaluate, found] at h
    | some w => simp [evaluate, found]
  | unary op e span ih =>
    obtain ⟨a, first, _⟩ := bind_ok.mp h
    exact ih first
  | binary op l r span ihl ihr =>
    cases first : (l.evaluate scope).1 with
    | error e => simp [evaluate, first] at h
    | ok a =>
      cases settled : op.settled? a with
      | error e => simp [evaluate, first, settled] at h
      | ok outcome =>
        cases outcome with
        | some v =>
          simp only [evaluate, first, settled]
          exact ihl first
        | none =>
          simp only [evaluate, first, settled] at h ⊢
          obtain ⟨b, second, _⟩ := bind_ok.mp h
          intro name member
          rcases List.mem_append.mp member with left | right
          · exact ihl first name left
          · exact ihr second name right
  | call1 f a span ih =>
    obtain ⟨a, first, _⟩ := bind_ok.mp h
    exact ih first
  | call2 f a b span iha ihb =>
    cases first : (a.evaluate scope).1.bind (argument f.name) with
    | error e => simp [evaluate, first] at h
    | ok x =>
      simp only [evaluate, first] at h ⊢
      obtain ⟨_, left, _⟩ := bind_ok.mp first
      obtain ⟨_, right, _⟩ := bind_ok.mp h
      intro name member
      rcases List.mem_append.mp member with here | there
      · exact iha left name here
      · exact ihb right name there

/-- A name that is missed has no value, and it is the last one that was read. -/
theorem missing_last (h : (e.evaluate scope).1 = .error (.missing name)) :
    scope name = none ∧ (e.evaluate scope).2.getLast? = some name := by
  induction e with
  | literal v span => simp [evaluate] at h
  | ref other span =>
    cases found : scope other with
    | none =>
      have same : other = name := by simpa [evaluate, found] using h
      subst same
      simp [evaluate, found]
    | some w => simp [evaluate, found] at h
  | unary op e span ih => exact ih (missing_of_bind (fun _ => op.needsNoName_apply) h)
  | binary op l r span ihl ihr =>
    cases first : (l.evaluate scope).1 with
    | error e =>
      simp only [evaluate, first] at h ⊢
      exact ihl (first.trans h)
    | ok a =>
      cases settled : op.settled? a with
      | error e =>
        simp only [evaluate, first, settled, Except.error.injEq] at h
        exact absurd (h ▸ settled) (Operator.needsNoName_settled? name)
      | ok outcome =>
        cases outcome with
        | some v => simp [evaluate, first, settled] at h
        | none =>
          simp only [evaluate, first, settled] at h ⊢
          obtain ⟨unknown, last⟩ := ihr (missing_of_bind (fun _ => op.needsNoName_apply) h)
          exact ⟨unknown, by simp [last]⟩
  | call1 f a span ih =>
    refine ih (missing_of_bind (fun v => ?_) h)
    exact needsNoName_argument.bind fun d => f.needsNoName_apply.bind fun _ => needsNoName_ok
  | call2 f a b span iha ihb =>
    cases first : (a.evaluate scope).1.bind (argument f.name) with
    | error e =>
      simp only [evaluate, first, Except.error.injEq] at h ⊢
      exact iha (missing_of_bind (fun _ => needsNoName_argument) (h ▸ first))
    | ok x =>
      simp only [evaluate, first] at h ⊢
      obtain ⟨unknown, last⟩ := ihb (missing_of_bind (fun v => needsNoName_argument.bind fun y =>
        f.needsNoName_apply.bind fun _ => needsNoName_ok) h)
      exact ⟨unknown, by simp [last]⟩

end Expr

/-! ### Wider scopes -/

/-- A scope that gives a name the value it has in another scope, if it has one there. -/
def Scope.Extends (larger scope : Scope) : Prop :=
  ∀ name v, scope name = some v → larger name = some v

theorem Scope.Extends.eq_of_isSome {larger scope : Scope} (wider : larger.Extends scope)
    {name : String} (found : (scope name).isSome) : larger name = scope name := by
  obtain ⟨v, here⟩ := Option.isSome_iff_exists.mp found
  rw [here, wider name v here]

theorem Expr.evaluate_extends {larger scope : Scope} {e : Expr} {v : Value}
    (wider : larger.Extends scope) (h : (e.evaluate scope).1 = .ok v) :
    e.evaluate larger = e.evaluate scope := by
  apply evaluate_congr
  intro name member
  exact wider.eq_of_isSome (reads_resolved h name member)

end Questionnaire
