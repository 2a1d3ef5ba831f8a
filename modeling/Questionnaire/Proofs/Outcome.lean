import Mathlib.Data.List.Forall2

/-!
What a computation that may fail went through when it did not.
-/

namespace Questionnaire

variable {ε δ α β : Type}

theorem forall_mem_none {p : α → Prop} : ∀ a ∈ (none : Option α), p a :=
  fun a absent => absurd absent (Option.not_mem_none a)

theorem forall_mem_some {p : α → Prop} {b : α} : (∀ a ∈ some b, p a) ↔ p b := by
  simp only [Option.mem_some_iff, forall_eq']

theorem bind_ok {x : Except ε α} {next : α → Except ε β} {b : β} :
    (x >>= next) = .ok b ↔ ∃ a, x = .ok a ∧ next a = .ok b := by
  cases x <;> simp [Bind.bind, Except.bind]

theorem check_ok {check : Except ε Unit} {next : Except ε β} {b : β} :
    (check >>= fun _ => next) = .ok b ↔ check = .ok () ∧ next = .ok b := by
  cases check <;> simp [Bind.bind, Except.bind]

theorem pure_ok {a b : α} : (pure a : Except ε α) = .ok b ↔ a = b := by
  simp [pure, Except.pure]

theorem map_ok {x : Except ε α} {f : α → β} {b : β} :
    x.map f = .ok b ↔ ∃ a, x = .ok a ∧ f a = b := by
  cases x <;> simp [Except.map]

theorem map_error {x : Except ε α} {f : α → β} {e : ε} :
    x.map f = .error e ↔ x = .error e := by
  cases x <;> simp [Except.map]

theorem mapError_ok {x : Except ε α} {f : ε → δ} {a : α} :
    x.mapError f = .ok a ↔ x = .ok a := by
  cases x <;> simp [Except.mapError]

theorem ok_of_toOption {x : Except ε α} {a : α} (h : x.toOption = some a) : x = .ok a := by
  cases x with
  | error e => cases h
  | ok b => exact congrArg Except.ok (Option.some.inj h)

def failure? : Except ε α → Option ε
  | .ok _ => none
  | .error e => some e

theorem error_of_failure? {x : Except ε α} {e : ε} (h : failure? x = some e) : x = .error e := by
  cases x with
  | ok a => cases h
  | error d => exact congrArg Except.error (Option.some.inj h)

theorem ok_of_map_toOption {x : Except ε α} {f : α → β} {b : β}
    (h : x.toOption.map f = some b) : ∃ a, x = .ok a ∧ f a = b := by
  obtain ⟨a, found, same⟩ := Option.map_eq_some_iff.mp h
  exact ⟨a, ok_of_toOption found, same⟩

theorem refuse_ok {c : Prop} [Decidable c] {e : ε} {next : α → Except ε β} {rest : Except ε β}
    {b : β} : (if c then Except.error e >>= next else rest) = .ok b ↔ ¬c ∧ rest = .ok b := by
  by_cases h : c <;> simp [h, Bind.bind, Except.bind]

theorem mapM_ok {f : α → Except ε β} {xs : List α} {ys : List β} :
    xs.mapM f = .ok ys ↔ List.Forall₂ (fun x y => f x = .ok y) xs ys := by
  induction xs generalizing ys with
  | nil => cases ys <;> simp [pure_ok]
  | cons x xs ih =>
    simp only [List.mapM_cons, bind_ok, pure_ok]
    constructor
    · rintro ⟨y, hy, rest, hrest, rfl⟩
      exact .cons hy (ih.mp hrest)
    · rintro (_ | ⟨hy, hrest⟩)
      exact ⟨_, hy, _, ih.mpr hrest, rfl⟩

theorem mapM_ok_mem {f : α → Except ε β} {xs : List α} {ys : List β} {y : β}
    (h : xs.mapM f = .ok ys) (member : y ∈ ys) : ∃ x ∈ xs, f x = .ok y := by
  have paired := mapM_ok.mp h
  induction paired with
  | nil => cases member
  | @cons x z xs ys head tail ih =>
    rcases List.mem_cons.mp member with rfl | later
    · exact ⟨x, List.mem_cons_self, head⟩
    · obtain ⟨x', present, read⟩ := ih (mapM_ok.mpr tail) later
      exact ⟨x', List.mem_cons_of_mem _ present, read⟩

/-! ### Results and errors -/

/-- A computation with a result of the one kind or an error of the other. -/
def Settles (bad : ε → Prop) (good : α → Prop) : Except ε α → Prop
  | .ok a => good a
  | .error e => bad e

section

variable {bad : ε → Prop} {good : α → Prop} {better : β → Prop} {x : Except ε α}

theorem Settles.of_ok {a : α} (settles : Settles bad good x) (h : x = .ok a) : good a := by
  subst h
  exact settles

theorem Settles.of_error {e : ε} (settles : Settles bad good x) (h : x = .error e) : bad e := by
  subst h
  exact settles

theorem Settles.bind {next : α → Except ε β} (settles : Settles bad good x)
    (follows : ∀ a, good a → Settles bad better (next a)) : Settles bad better (x >>= next) := by
  cases x with
  | ok a => exact follows a settles
  | error e => exact settles

theorem Settles.map {f : α → β} (settles : Settles bad good x) (follows : ∀ a, good a → better (f a)) :
    Settles bad better (x.map f) := by
  cases x with
  | ok a => exact follows a settles
  | error e => exact settles

theorem settles_ite {c : Prop} [Decidable c] {x y : Except ε α} (holds : c → Settles bad good x)
    (fails : ¬c → Settles bad good y) : Settles bad good (if c then x else y) := by
  by_cases h : c
  · rw [if_pos h]
    exact holds h
  · rw [if_neg h]
    exact fails h

theorem settles_refuse {c : Prop} [Decidable c] {e : ε} {next : α → Except ε β} {rest : Except ε β}
    (refused : bad e) (passed : ¬c → Settles bad better rest) :
    Settles bad better (if c then Except.error e >>= next else rest) := by
  by_cases h : c
  · rw [if_pos h]
    exact refused
  · rw [if_neg h]
    exact passed h

theorem settles_mapM_forall {f : α → Except ε β} {xs : List α}
    (each : ∀ x ∈ xs, Settles bad better (f x)) :
    Settles bad (fun ys => ∀ y ∈ ys, better y) (xs.mapM f) := by
  induction xs with
  | nil => exact List.forall_mem_nil _
  | cons x xs ih =>
    rw [List.forall_mem_cons] at each
    rw [List.mapM_cons]
    refine each.1.bind fun y here => (ih each.2).bind fun ys later => ?_
    exact List.forall_mem_cons.mpr ⟨here, later⟩

theorem settles_mapM {f : α → Except ε β} {xs : List α}
    (each : ∀ x ∈ xs, Settles bad (fun _ => True) (f x)) :
    Settles bad (fun _ => True) (xs.mapM f) := by
  have settles := settles_mapM_forall each
  cases read : xs.mapM f with
  | ok ys => exact trivial
  | error e => exact settles.of_error read

end

end Questionnaire
