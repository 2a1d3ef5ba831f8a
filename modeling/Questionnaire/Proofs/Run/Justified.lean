import Questionnaire.Proofs.Run.Visits

/-!
What justifies the decisions of a run.

The invariant is `Consistent`: under the name of a derivation there is nothing, or just what its cases
give in the present scope. All that its cases read has a value then and keeps it, so a second visit to
the derivation finds the value that it would write: `Consistent.visit`.
-/

namespace Questionnaire

/-- What a store holds under a name once a derivation of that name has got a value, or none. -/
def ParameterStore.Holds (known : ParameterStore) (name : String) (type : AnswerType) :
    Option Value → Prop
  | none => known.get? name = none
  | some v => ∃ w, v.coerce? type = some w ∧ known.get? name = some (.ofValue name w)

/-- What is known makes a step read these names and go on at this target: a question is answered, a
condition decides for the branch, a derivation gives what is held under its name. -/
def Step.Justified (m : Model) (known : ParameterStore) (s : Step) (used : List String)
    (target : Target) : Prop :=
  match s.kind with
  | .question parameters _ =>
    s.isAnswered known = true ∧ used = distinctNames (parameters.map (·.name)) ∧ target = s.next
  | .gate condition onTrue onFalse _ =>
    ∃ b reads, condition.root.evaluate (m.scope known) = (.ok (.boolean b), reads) ∧
      used = distinctNames reads ∧ target = if b then onTrue else onFalse
  | .derivation name type cases =>
    ∃ value reads, evaluateCases (m.scope known) cases = (.ok value, reads) ∧
      used = distinctNames reads ∧ target = s.next ∧ known.Holds name type value

namespace Step

variable {m : Model} {known : ParameterStore} {s : Step} {used : List String} {target : Target}

theorem justified_question {parameters : List AskedParameter} {mode : AnswerMode}
    (kind : s.kind = .question parameters mode) :
    s.Justified m known used target ↔ s.isAnswered known = true ∧
      used = distinctNames (parameters.map (·.name)) ∧ target = s.next := by
  simp only [Justified, kind]

theorem justified_gate {condition : Formula} {onTrue onFalse : Target} {fallback : Option Nat}
    (kind : s.kind = .gate condition onTrue onFalse fallback) :
    s.Justified m known used target ↔
      ∃ b reads, condition.root.evaluate (m.scope known) = (.ok (.boolean b), reads) ∧
        used = distinctNames reads ∧ target = if b then onTrue else onFalse := by
  simp only [Justified, kind]

theorem justified_derivation {name : String} {type : AnswerType} {cases : List Case}
    (kind : s.kind = .derivation name type cases) :
    s.Justified m known used target ↔
      ∃ value reads, evaluateCases (m.scope known) cases = (.ok value, reads) ∧
        used = distinctNames reads ∧ target = s.next ∧ known.Holds name type value := by
  simp only [Justified, kind]

end Step

namespace Model

/-- Under the name of a derivation there is nothing, or what it gives. -/
def Consistent (m : Model) (known : ParameterStore) : Prop :=
  ∀ (index : Nat) (s : Step) (name : String), m.steps[index]? = some s →
    s.derivedName? = some name → name ∈ known.names → ∃ used, s.Justified m known used s.next

/-- A derivation gives this parameter, and nothing is there under its name yet. -/
structure Writes (m : Model) (known : ParameterStore) (p : Parameter) : Prop where
  absent : p.name ∉ known.names
  derived : ∃ (index : Nat) (s : Step) (type : AnswerType) (cases : List Case) (v w : Value),
    m.steps[index]? = some s ∧ s.kind = .derivation p.name type cases ∧
    (evaluateCases (m.scope known) cases).1 = .ok (some v) ∧ v.coerce? type = some w ∧
    p = .ofValue p.name w

variable {m : Model} {known : ParameterStore} {p : Parameter} {s : Step} {used : List String}
  {target : Target} {index : Nat} {v : Visit}

/-! ### One write -/

theorem WellFormed.derivation_unique (wellFormed : m.WellFormed) {i j : Nat} {s t : Step}
    {name : String} (here : m.steps[i]? = some s) (there : m.steps[j]? = some t)
    (first : s.derivedName? = some name) (second : t.derivedName? = some name) : s = t := by
  have left := (wellFormed.derivation name i).mpr ⟨s, here, first⟩
  have right := (wellFormed.derivation name j).mpr ⟨t, there, second⟩
  cases left.symm.trans right
  exact Option.some.inj (here.symm.trans there)

theorem Writes.origin (wellFormed : m.WellFormed) (writes : m.Writes known p) :
    ∃ index, m.origin? p.name = some (.derivation index) := by
  obtain ⟨index, s, type, cases, _, _, found, kind, _⟩ := writes.derived
  exact ⟨index, (wellFormed.derivation p.name index).mpr
    ⟨s, found, Step.derivedName?_eq_some.mpr ⟨type, cases, kind⟩⟩⟩

theorem Writes.widens (wellFormed : m.WellFormed) (writes : m.Writes known p) :
    (m.scope (known.insert p)).Extends (m.scope known) := by
  obtain ⟨index, origin⟩ := writes.origin wellFormed
  exact scope_insert origin writes.absent

theorem isAnswered_insert (absent : p.name ∉ known.names) (answered : s.isAnswered known = true) :
    s.isAnswered (known.insert p) = true := by
  unfold Step.isAnswered at answered ⊢
  split at answered
  · rw [List.all_eq_true] at answered ⊢
    intro q member
    exact (isKnown_insert_of_absent absent (answered q member)).1
  · obtain ⟨q, member, here⟩ := List.any_eq_true.mp answered
    exact List.any_eq_true.mpr ⟨q, member, (isKnown_insert_of_absent absent here).1⟩
  · rfl

/-- What justifies a step goes on to do so after a write. -/
theorem Writes.justified (wellFormed : m.WellFormed) (writes : m.Writes known p)
    (found : m.steps[index]? = some s) (justified : s.Justified m known used target) :
    s.Justified m (known.insert p) used target := by
  have wider := writes.widens wellFormed
  cases kind : s.kind with
  | question parameters mode =>
    obtain ⟨answered, rest⟩ := (Step.justified_question kind).mp justified
    exact (Step.justified_question kind).mpr ⟨isAnswered_insert writes.absent answered, rest⟩
  | gate condition onTrue onFalse fallback =>
    obtain ⟨b, reads, evaluated, rest⟩ := (Step.justified_gate kind).mp justified
    have same := Expr.evaluate_extends wider (congrArg Prod.fst evaluated)
    exact (Step.justified_gate kind).mpr ⟨b, reads, same.trans evaluated, rest⟩
  | derivation name type cases =>
    obtain ⟨value, reads, evaluated, usedReads, next, held⟩ :=
      (Step.justified_derivation kind).mp justified
    have same := evaluateCases_extends wider (congrArg Prod.fst evaluated)
    refine (Step.justified_derivation kind).mpr
      ⟨value, reads, same.trans evaluated, usedReads, next, ?_⟩
    -- The name is held already, or it is the one written; then its cases give a value.
    have different : p.name ≠ name := by
      rintro rfl
      obtain ⟨j, t, type', cases', a, _, there, kind', gives, _⟩ := writes.derived
      have equal := wellFormed.derivation_unique found there
        (Step.derivedName?_eq_some.mpr ⟨type, cases, kind⟩)
        (Step.derivedName?_eq_some.mpr ⟨type', cases', kind'⟩)
      subst equal
      cases kind.symm.trans kind'
      cases value with
      | none =>
        rw [evaluated] at gives
        cases gives
      | some a =>
        obtain ⟨w, _, present⟩ := held
        exact writes.absent (ParameterStore.contains_iff.mp (by
          simp [ParameterStore.contains, present]))
    cases value with
    | none => simpa [ParameterStore.Holds, ParameterStore.get?_insert, different] using held
    | some a => simpa [ParameterStore.Holds, ParameterStore.get?_insert, different] using held

theorem Writes.consistent (wellFormed : m.WellFormed) (writes : m.Writes known p)
    (consistent : m.Consistent known) : m.Consistent (known.insert p) := by
  intro index s name found derived member
  by_cases same : name = p.name
  · subst same
    obtain ⟨j, t, type, cases, a, w, there, kind, gives, coerced, made⟩ := writes.derived
    have equal := wellFormed.derivation_unique found there derived
      (Step.derivedName?_eq_some.mpr ⟨type, cases, kind⟩)
    subst equal
    have again := evaluateCases_extends (writes.widens wellFormed) gives
    refine ⟨distinctNames (evaluateCases (m.scope known) cases).2,
      (Step.justified_derivation kind).mpr ⟨some a, _, ?_, rfl, rfl, w, coerced, ?_⟩⟩
    · rw [again, ← gives]
    · rw [ParameterStore.get?_insert, if_pos rfl, ← made]
  · have before := (ParameterStore.names_insert.mp member).resolve_left same
    obtain ⟨used, justified⟩ := consistent index s name found derived before
    exact ⟨used, writes.justified wellFormed found justified⟩

/-! ### One visit -/

/-- In a consistent store a derivation writes under its name only if nothing is there. -/
theorem Consistent.derive (consistent : m.Consistent known) (found : m.steps[index]? = some s)
    {name : String} {type : AnswerType} {cases : List Case}
    (kind : s.kind = .derivation name type cases) {value : Option Value} {derived : Option Parameter}
    (evaluated : (evaluateCases (m.scope known) cases).1 = .ok value)
    (h : derive known s name type value = .ok derived) :
    (derived = none ∧ known.Holds name type value) ∨
      ∃ p, derived = some p ∧ p.name = name ∧ m.Writes known p ∧
        (known.insert p).Holds name type value := by
  -- What the invariant says if the name is there.
  have present : name ∈ known.names → known.Holds name type value := by
    intro member
    obtain ⟨used, justified⟩ := consistent index s name found
      (Step.derivedName?_eq_some.mpr ⟨type, cases, kind⟩) member
    obtain ⟨value', reads, evaluated', _, _, held⟩ :=
      (Step.justified_derivation kind).mp justified
    rw [evaluated'] at evaluated
    cases evaluated
    exact held
  rcases derive_ok h with ⟨rfl, rfl⟩ | ⟨a, w, rfl, coerced, ⟨q, here, _, rfl⟩ | ⟨changed, rfl⟩⟩
  · refine Or.inl ⟨rfl, ?_⟩
    by_cases member : name ∈ known.names
    · exact present member
    · exact ParameterStore.get?_eq_none.mpr member
  · obtain ⟨here, named⟩ := ParameterStore.get?_eq_some.mp here
    exact Or.inl ⟨rfl, present (named ▸ List.mem_map_of_mem here)⟩
  · refine Or.inr ⟨_, rfl, rfl, ⟨?_, ?_⟩, w, coerced, ?_⟩
    · intro member
      obtain ⟨w', coerced', held⟩ := present member
      cases coerced.symm.trans coerced'
      exact Bool.false_ne_true ((changed _ held).symm.trans (Value.same_refl w))
    · exact ⟨index, s, type, cases, a, w, found, kind, evaluated, coerced, rfl⟩
    · exact (ParameterStore.get?_insert _ _ _).trans (if_pos rfl)

/-- A visit that goes on writes nothing or writes once, and what is known afterwards justifies it. -/
theorem Consistent.visit (wellFormed : m.WellFormed) (consistent : m.Consistent known)
    (found : m.steps[index]? = some s) (visited : m.visit known index s = .ok v)
    (goes : v.flow = .go target) :
    (∀ p, v.derived = some p → m.Writes known p) ∧
      s.Justified m (v.after known) v.used target := by
  cases kind : s.kind with
  | question parameters mode =>
    rw [visit_question kind] at visited
    cases visited
    simp only at goes
    split at goes
    · rename_i answered
      cases goes
      exact ⟨by simp, (Step.justified_question kind).mpr ⟨answered, rfl, rfl⟩⟩
    · cases goes
  | gate condition onTrue onFalse fallback =>
    obtain ⟨same, reads, decided⟩ := visit_gate kind visited
    rcases flowOfGate_ok decided with ⟨b, evaluated, on⟩ | ⟨_, _, _, _, asks⟩
    · cases on.symm.trans goes
      refine ⟨by simp [same], (Step.justified_gate kind).mpr ⟨b, _, ?_, reads, rfl⟩⟩
      simp only [Visit.after, same]
      rw [← evaluated]
    · cases asks.symm.trans goes
  | derivation name type cases =>
    obtain ⟨reads, ⟨value, evaluated, decided, on⟩ | ⟨_, _, _, failed⟩⟩ :=
      visit_derivation kind visited
    · cases on.symm.trans goes
      rcases consistent.derive found kind evaluated decided with
        ⟨same, held⟩ | ⟨p, written, named, writes, held⟩
      · have after : v.after known = known := by simp only [Visit.after, same]
        rw [after]
        refine ⟨by simp [same],
          (Step.justified_derivation kind).mpr ⟨value, _, ?_, reads, rfl, held⟩⟩
        rw [← evaluated]
      · have after : v.after known = known.insert p := by simp only [Visit.after, written]
        have again := evaluateCases_extends (writes.widens wellFormed) evaluated
        rw [after]
        refine ⟨by simp [written, writes],
          (Step.justified_derivation kind).mpr ⟨value, _, ?_, reads, rfl, held⟩⟩
        rw [again, ← evaluated]
    · obtain ⟨_, _, _, _, asks⟩ := flowOfError_ok failed
      cases asks.symm.trans goes

end Model

end Questionnaire
