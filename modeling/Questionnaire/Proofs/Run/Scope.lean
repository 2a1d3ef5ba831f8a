import Questionnaire.Proofs.Expression.Reads
import Questionnaire.Proofs.Model.WellFormed
import Questionnaire.Run.Visit

/-!
The scope of a run and what is evaluated in it.

A value that is written under a name for the first time leaves the values of all other names alone,
the options that are false because another one is known included: `scope_insert`.
-/

namespace Questionnaire

/-! ### Cases -/

section

variable {scope larger : Scope} {cases : List Case} {c : Case} {guard : Formula} {v : Option Value}
  {name : String}

theorem reads_guard (guarded : c.guard = some guard)
    (member : name ∈ (guard.root.evaluate scope).2) :
    name ∈ (evaluateCases scope (c :: cases)).2 := by
  simp only [evaluateCases, guarded]
  split
  · exact member
  · exact List.mem_append_left _ member
  · exact List.mem_append_left _ member
  · exact member

theorem evaluateCases_congr
    (agree : ∀ name ∈ (evaluateCases scope cases).2, larger name = scope name) :
    evaluateCases larger cases = evaluateCases scope cases := by
  induction cases with
  | nil => rfl
  | cons c rest ih =>
    cases guarded : c.guard with
    | none =>
      simp only [evaluateCases, guarded] at agree ⊢
      rw [Expr.evaluate_congr agree]
    | some guard =>
      have same := Expr.evaluate_congr fun name member => agree name (reads_guard guarded member)
      cases condition : (guard.root.evaluate scope).1 with
      | error e => simp only [evaluateCases, guarded, same, condition]
      | ok a =>
        cases a with
        | boolean b =>
          cases b with
          | true =>
            simp only [evaluateCases, guarded, condition] at agree
            have value := Expr.evaluate_congr fun name member =>
              agree name (List.mem_append_right _ member)
            simp only [evaluateCases, guarded, same, condition, value]
          | false =>
            simp only [evaluateCases, guarded, condition] at agree
            have later := ih fun name member => agree name (List.mem_append_right _ member)
            simp only [evaluateCases, guarded, same, condition, later]
        | _ => simp only [evaluateCases, guarded, same, condition]

theorem evaluateCases_resolved (h : (evaluateCases scope cases).1 = .ok v) :
    ∀ name ∈ (evaluateCases scope cases).2, (scope name).isSome := by
  induction cases generalizing v with
  | nil => simp [evaluateCases]
  | cons c rest ih =>
    cases guarded : c.guard with
    | none =>
      simp only [evaluateCases, guarded] at h ⊢
      obtain ⟨a, value, _⟩ := map_ok.mp h
      exact Expr.reads_resolved value
    | some guard =>
      cases condition : (guard.root.evaluate scope).1 with
      | error e => simp [evaluateCases, guarded, condition] at h
      | ok a =>
        have checked := Expr.reads_resolved condition
        cases a with
        | boolean b =>
          cases b with
          | true =>
            simp only [evaluateCases, guarded, condition] at h ⊢
            obtain ⟨a, value, _⟩ := map_ok.mp h
            intro name member
            rcases List.mem_append.mp member with here | there
            · exact checked name here
            · exact Expr.reads_resolved value name there
          | false =>
            simp only [evaluateCases, guarded, condition] at h ⊢
            intro name member
            rcases List.mem_append.mp member with here | there
            · exact checked name here
            · exact ih h name there
        | _ => simp [evaluateCases, guarded, condition] at h

theorem evaluateCases_extends (wider : larger.Extends scope)
    (h : (evaluateCases scope cases).1 = .ok v) :
    evaluateCases larger cases = evaluateCases scope cases := by
  apply evaluateCases_congr
  intro name member
  exact wider.eq_of_isSome (evaluateCases_resolved h name member)

theorem evaluateCases_missing (h : (evaluateCases scope cases).1 = .error (.missing name)) :
    scope name = none ∧ (evaluateCases scope cases).2.getLast? = some name := by
  induction cases with
  | nil => simp [evaluateCases] at h
  | cons c rest ih =>
    cases guarded : c.guard with
    | none =>
      simp only [evaluateCases, guarded, map_error] at h ⊢
      exact Expr.missing_last h
    | some guard =>
      cases condition : (guard.root.evaluate scope).1 with
      | error e =>
        simp only [evaluateCases, guarded, condition, Except.error.injEq] at h ⊢
        exact Expr.missing_last (h ▸ condition)
      | ok a =>
        cases a with
        | boolean b =>
          cases b with
          | true =>
            simp only [evaluateCases, guarded, condition, map_error] at h ⊢
            obtain ⟨unknown, last⟩ := Expr.missing_last h
            exact ⟨unknown, by simp [last]⟩
          | false =>
            simp only [evaluateCases, guarded, condition] at h ⊢
            obtain ⟨unknown, last⟩ := ih h
            exact ⟨unknown, by simp [last]⟩
        | _ => simp [evaluateCases, guarded, condition] at h

end

/-! ### Choices -/

def Step.choice (s : Step) : List AskedParameter :=
  match s.kind with
  | .question parameters .anyOf => parameters
  | _ => []

theorem Step.kind_of_choice {s : Step} {p : AskedParameter} (option : p ∈ s.choice) :
    s.kind = .question s.choice .anyOf := by
  unfold choice at option ⊢
  split
  · assumption
  · rename_i other
    split at option
    · exact absurd ‹_› (other _)
    · cases option

namespace Model

variable {m : Model} {known : ParameterStore} {p : Parameter} {name : String} {v : Value}

/-! ### Scopes of runs -/

/-- A name has a value as a constant, as something known, or as the option that was not picked. -/
theorem scope_eq_some :
    m.scope known name = some v ↔
      (∃ c, m.constants.get? name = some c ∧ c.value = v) ∨
        m.constants.get? name = none ∧
          ((known.isKnown name = true ∧ known.value name = v) ∨
            (known.isKnown name = false ∧ m.isClosedOption known name = true ∧
              .boolean false = v)) := by
  unfold scope
  cases constant : m.constants.get? name with
  | some c => simp
  | none =>
    cases here : known.isKnown name with
    | true => simp
    | false => cases m.isClosedOption known name <;> simp

theorem isKnown_of_scope_none (h : m.scope known name = none) : known.isKnown name = false := by
  unfold scope at h
  split at h
  · cases h
  · split at h
    · cases h
    · rename_i unknown
      exact Bool.eq_false_iff.mpr unknown

theorem isKnown_insert_of_absent (absent : p.name ∉ known.names)
    (here : known.isKnown name = true) :
    (known.insert p).isKnown name = true ∧ (known.insert p).value name = known.value name := by
  have different : name ≠ p.name := by
    rintro rfl
    exact absent (ParameterStore.names_of_isKnown here)
  rw [ParameterStore.isKnown_insert_of_ne different]
  exact ⟨here, ParameterStore.value_insert_of_ne different⟩

theorem isClosedOption_insert (absent : p.name ∉ known.names)
    (closed : m.isClosedOption known name = true) :
    m.isClosedOption (known.insert p) name = true := by
  unfold isClosedOption at closed ⊢
  split at closed
  · split at closed
    · obtain ⟨q, member, here⟩ := List.any_eq_true.mp closed
      exact List.any_eq_true.mpr ⟨q, member, (isKnown_insert_of_absent absent here).1⟩
    · cases closed
  · cases closed

theorem origin?_of_isClosedOption (closed : m.isClosedOption known name = true) :
    ∃ index, m.origin? name = some (.question index) := by
  unfold isClosedOption at closed
  split at closed
  · exact ⟨_, ‹_›⟩
  · cases closed

/-- A name is false because of another one just if both are options of a choice and that one is
known. -/
theorem WellFormed.isClosedOption_iff (wellFormed : m.WellFormed) :
    m.isClosedOption known name = true ↔
      ∃ s ∈ m.steps, name ∈ s.choice.map (·.name) ∧
        ∃ q ∈ s.choice, known.isKnown q.name = true := by
  constructor
  · intro closed
    unfold isClosedOption at closed
    split at closed
    · rename_i index origin
      obtain ⟨s, found, asked⟩ := (wellFormed.question name index).mp origin
      split at closed
      · rename_i parameters kind
        have kind : s.kind = .question parameters .anyOf := by simpa [kind?, found] using kind
        have choice : s.choice = parameters := by simp only [Step.choice, kind]
        refine ⟨s, List.mem_of_getElem? found, ?_, ?_⟩
        · simpa only [Step.askedNames, Step.asked, kind, choice] using asked
        · simpa only [List.any_eq_true, choice] using closed
      · cases closed
    · cases closed
  · rintro ⟨s, step, named, q, option, here⟩
    have kind := Step.kind_of_choice option
    obtain ⟨index, found⟩ := List.mem_iff_getElem?.mp step
    have asked : name ∈ s.askedNames := by simpa only [Step.askedNames, Step.asked, kind] using named
    have origin := (wellFormed.question name index).mpr ⟨s, found, asked⟩
    simp only [isClosedOption, origin, kind?, found, Option.map_some, kind]
    exact List.any_eq_true.mpr ⟨q, option, here⟩

/-- A derived value that is written for the first time leaves every value alone. -/
theorem scope_insert {index : Nat} (derived : m.origin? p.name = some (.derivation index))
    (absent : p.name ∉ known.names) :
    (m.scope (known.insert p)).Extends (m.scope known) := by
  intro name v found
  rcases scope_eq_some.mp found with constant | ⟨constant, ⟨here, rfl⟩ | ⟨unknown, closed, rfl⟩⟩
  · exact scope_eq_some.mpr (Or.inl constant)
  · obtain ⟨still, same⟩ := isKnown_insert_of_absent absent here
    exact scope_eq_some.mpr (Or.inr ⟨constant, Or.inl ⟨still, same⟩⟩)
  · have different : name ≠ p.name := by
      rintro rfl
      obtain ⟨_, question⟩ := origin?_of_isClosedOption closed
      rw [question] at derived
      cases derived
    have still := isClosedOption_insert absent closed
    refine scope_eq_some.mpr (Or.inr ⟨constant, Or.inr ⟨?_, still, rfl⟩⟩)
    rw [ParameterStore.isKnown_insert_of_ne different, unknown]

end Model

end Questionnaire
