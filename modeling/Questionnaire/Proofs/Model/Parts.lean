import Questionnaire.Proofs.Expression.Literals
import Questionnaire.Proofs.Model.Building

/-!
What the parts of built steps come from.

A step is built in one of four ways: `StepSite.kind_ok`. All its formulas were read from their texts, so
their literals are values; an option of a choice is answered with a truth value, and only lists have options.
-/

namespace Questionnaire

def Formula.IsRead (f : Formula) : Prop := Formula.ofText f.text = .ok f

theorem Formula.isRead_of_text {text : String} {f : Formula} (h : Formula.ofText text = .ok f) :
    f.IsRead := by
  have same : f.text = text := by
    obtain ⟨ts, _, made⟩ := bind_ok.mp h
    obtain ⟨root, _, made⟩ := bind_ok.mp made
    rw [← pure_ok.mp made]
  rw [IsRead, same]
  exact h

/-- The formulas of a case, the guard first. -/
def Case.formulas (c : Case) : List Formula := c.guard.toList ++ [c.formula]

def StepKind.formulas : StepKind → List Formula
  | question .. => []
  | derivation _ _ cases => cases.flatMap (·.formulas)
  | gate condition .. => [condition]

/-- The answers to a choice are truth values, and what has options is a list of labels. -/
def StepKind.Labelled : StepKind → Prop
  | question parameters mode => ∀ p ∈ parameters,
      (mode = .anyOf → p.valueType = .boolean) ∧ (p.options ≠ [] → p.questionType = .list)
  | _ => True

namespace StepSite

variable {site : StepSite} {kind : StepKind}

/-! ### The ways to build a step -/

theorem build_kind {s : Step} (h : site.build = .ok s) : site.kind = .ok s.kind := by
  obtain ⟨kind, made, h⟩ := bind_ok.mp h
  split at h
  all_goals
    obtain ⟨next, _, h⟩ := bind_ok.mp h
    cases pure_ok.mp h
    exact made

theorem kind_ok (h : site.kind = .ok kind) :
    (∃ options, site.choice options = .ok kind) ∨ (∃ raw, site.questions raw = .ok kind) ∨
      (∃ raw, site.step.derivation = some raw ∧ site.derivation raw = .ok kind) ∨
      ∃ raw, site.gate raw = .ok kind := by
  unfold StepSite.kind at h
  split at h
  · exact Or.inl ⟨_, h⟩
  · exact Or.inr (Or.inl ⟨_, h⟩)
  · exact Or.inr (Or.inr (Or.inl ⟨_, ‹_›, h⟩))
  · split at h
    · simp [fail] at h
    · exact Or.inr (Or.inr (Or.inr ⟨_, h⟩))
  · simp [failLine] at h

/-! ### Formulas -/

theorem expression_read {field : ExpressionField} {value : Yaml.Value} {f : Formula}
    (h : site.expression field value = .ok f) : f.IsRead := by
  unfold expression at h
  split at h
  · simp [failLine] at h
  · exact Formula.isRead_of_text (mapError_ok.mp h)

theorem case_read {raw : Script.Case} {c : Case} (h : site.case raw = .ok c) :
    ∀ f ∈ c.formulas, f.IsRead := by
  obtain ⟨guard, guardRead, h⟩ := bind_ok.mp h
  obtain ⟨formula, read, h⟩ := bind_ok.mp h
  cases pure_ok.mp h
  intro f member
  rcases List.mem_append.mp member with here | here
  · cases given : raw.guard with
    | none =>
      rw [given] at guardRead
      cases pure_ok.mp guardRead
      cases here
    | some value =>
      rw [given] at guardRead
      obtain ⟨g, made, rfl⟩ := map_ok.mp guardRead
      cases List.mem_singleton.mp here
      exact expression_read made
  · cases List.mem_singleton.mp here
    exact expression_read read

theorem derivation_ok {raw : Script.Derivation} (h : site.derivation raw = .ok kind) :
    ∃ cases, kind = .derivation raw.name (raw.type.getD .unknown) cases ∧
      ∀ c ∈ cases, ∀ f ∈ c.formulas, f.IsRead := by
  simp only [derivation, fail, refuse_ok] at h
  obtain ⟨_, h⟩ := h
  split at h
  · obtain ⟨cases, read, h⟩ := bind_ok.mp h
    obtain ⟨formula, made, rfl⟩ := map_ok.mp read
    refine ⟨_, (pure_ok.mp h).symm, ?_⟩
    intro c member f here
    cases List.mem_singleton.mp member
    cases List.mem_singleton.mp here
    exact expression_read made
  · obtain ⟨cases, read, h⟩ := bind_ok.mp h
    refine ⟨cases, (pure_ok.mp h).symm, ?_⟩
    intro c member
    obtain ⟨_, _, made⟩ := mapM_ok_mem read member
    exact case_read made
  · obtain ⟨_, stopped, _⟩ := bind_ok.mp h
    cases stopped

theorem gate_read {raw : Script.Gate} (h : site.gate raw = .ok kind) :
    ∀ f ∈ kind.formulas, f.IsRead := by
  unfold gate at h
  obtain ⟨condition, read, h⟩ := bind_ok.mp h
  obtain ⟨onTrue, _, h⟩ := bind_ok.mp h
  obtain ⟨onFalse, _, h⟩ := bind_ok.mp h
  have isRead : ∀ f ∈ [condition], f.IsRead := by
    intro f member
    cases List.mem_singleton.mp member
    exact expression_read read
  split at h
  · cases pure_ok.mp h
    exact isRead
  · split at h
    · cases pure_ok.mp h
      exact isRead
    · simp [fail] at h

/-! ### Labels -/

theorem choice_labelled {options : List Yaml.Value} (h : site.choice options = .ok kind) :
    kind.Labelled := by
  simp only [choice, fail, refuse_ok] at h
  obtain ⟨_, h⟩ := h
  obtain ⟨names, _, h⟩ := bind_ok.mp h
  cases pure_ok.mp h
  intro p member
  obtain ⟨name, _, rfl⟩ := List.mem_map.mp member
  exact ⟨fun _ => rfl, fun some => absurd rfl some⟩

theorem asked_list {q : Script.Question} {p : AskedParameter} (h : site.asked q = .ok p) :
    p.options ≠ [] → p.questionType = .list := by
  simp only [asked, fail, refuse_ok] at h
  obtain ⟨_, h⟩ := h
  split at h
  · cases pure_ok.mp h
    exact fun some => absurd rfl some
  · obtain ⟨options, _, h⟩ := bind_ok.mp h
    obtain ⟨_, h⟩ := refuse_ok.mp h
    obtain ⟨type, _, h⟩ := bind_ok.mp h
    cases pure_ok.mp h
    exact fun _ => rfl

theorem questions_labelled {raw : List Script.Question} (h : site.questions raw = .ok kind) :
    kind.Labelled := by
  simp only [questions, fail, refuse_ok] at h
  obtain ⟨_, h⟩ := h
  obtain ⟨parameters, read, h⟩ := bind_ok.mp h
  cases pure_ok.mp h
  intro p member
  obtain ⟨q, _, made⟩ := mapM_ok_mem read member
  exact ⟨fun one => absurd one (by simp), asked_list made⟩

/-! ### Steps -/

theorem build_read {s : Step} (h : site.build = .ok s) : ∀ f ∈ s.kind.formulas, f.IsRead := by
  rcases kind_ok (build_kind h) with ⟨_, made⟩ | ⟨_, made⟩ | ⟨_, _, made⟩ | ⟨_, made⟩
  · obtain ⟨_, kind, _⟩ := choice_sound made
    simp [kind, StepKind.formulas]
  · obtain ⟨_, kind, _⟩ := questions_sound made
    simp [kind, StepKind.formulas]
  · obtain ⟨cases, kind, read⟩ := derivation_ok made
    intro f member
    rw [kind] at member
    obtain ⟨c, listed, here⟩ := List.mem_flatMap.mp member
    exact read c listed f here
  · exact gate_read made

theorem build_known {s : Step} (h : site.build = .ok s) :
    ∀ f ∈ s.kind.formulas, f.root.KnownLiterals :=
  fun f member => Formula.knownLiterals_of_text (build_read h f member)

theorem build_labelled {s : Step} (h : site.build = .ok s) : s.kind.Labelled := by
  rcases kind_ok (build_kind h) with ⟨_, made⟩ | ⟨_, made⟩ | ⟨_, _, made⟩ | ⟨_, made⟩
  · exact choice_labelled made
  · exact questions_labelled made
  · obtain ⟨cases, kind, _⟩ := derivation_ok made
    rw [kind]
    trivial
  · obtain ⟨_, _, _, _, kind, _⟩ := gate_sound made
    rw [kind]
    trivial

/-- A derivation is built with the type that the script declares for it. -/
theorem build_derivation {s : Step} {name : String} {type : AnswerType} {cases : List Case}
    (h : site.build = .ok s) (kind : s.kind = .derivation name type cases) :
    ∃ known, some known = site.step.derivation.map (·.type) ∧ type = known.getD .unknown := by
  have made := build_kind h
  rw [kind] at made
  rcases kind_ok made with ⟨_, made⟩ | ⟨_, made⟩ | ⟨raw, given, made⟩ | ⟨_, made⟩
  · obtain ⟨_, other, _⟩ := choice_sound made
    cases other
  · obtain ⟨_, other, _⟩ := questions_sound made
    cases other
  · obtain ⟨_, same, _⟩ := derivation_ok made
    cases same
    exact ⟨raw.type, by rw [given]; rfl, rfl⟩
  · obtain ⟨_, _, _, _, other, _⟩ := gate_sound made
    cases other

end StepSite

theorem buildSteps_getElem? {places : Places} {ids : List String} {start index : Nat}
    {raw : List Script.Step} {steps : List Step} {s : Step}
    (h : buildSteps places ids start raw = .ok steps) (found : steps[index]? = some s) :
    ∃ step, raw[index]? = some step ∧
      StepSite.build ⟨places, ids, start + index, step⟩ = .ok s := by
  induction raw generalizing start index steps with
  | nil =>
    cases h
    cases found
  | cons step rest ih =>
    unfold buildSteps at h
    obtain ⟨built, made, h⟩ := bind_ok.mp h
    obtain ⟨others, later, h⟩ := bind_ok.mp h
    cases pure_ok.mp h
    cases index with
    | zero =>
      cases found
      exact ⟨step, rfl, made⟩
    | succ index =>
      obtain ⟨step, there, made⟩ := ih later found
      exact ⟨step, there, by rwa [Nat.add_right_comm] at made⟩

end Questionnaire
