import Questionnaire.Model.Compile
import Questionnaire.Proofs.Outcome
import Questionnaire.Proofs.Value.Reading

/-!
What steps are like once they are built.

`Step.Sound` is what one step keeps to whatever the others are: its targets exist, it asks or derives
something, and the options of a question fit the type of the answer.
-/

namespace Questionnaire

/-- A target that exists in a model of `n` steps. -/
def Target.InRange (n : Nat) : Target → Prop
  | .step index => index < n
  | .finish _ => True

/-- Unless the answer is a text, every option reads as a value of the type of the answer. -/
def AskedParameter.OptionsTyped (p : AskedParameter) : Prop :=
  p.valueType = .text ∨ ∀ o ∈ p.options, (Value.ofText o).type = p.valueType

/-- A step that is built as it should be, in a model of `n` steps. -/
def Step.Sound (n : Nat) (s : Step) : Prop :=
  s.next.InRange n ∧
    match s.kind with
    | .question parameters _ => parameters ≠ [] ∧ ∀ p ∈ parameters, p.OptionsTyped
    | .derivation _ _ cases => cases ≠ []
    | .gate _ onTrue onFalse fallback =>
      onTrue.InRange n ∧ onFalse.InRange n ∧ ∀ index ∈ fallback, index < n

namespace StepSite

variable {site : StepSite}

/-! ### Targets -/

theorem idxOf?_lt {ids : List String} {id : String} {index : Nat}
    (found : ids.idxOf? id = some index) : index < ids.length := by
  rw [List.idxOf?, List.findIdx?_eq_some_iff_getElem] at found
  exact found.1

theorem following_inRange : site.following.InRange site.ids.length := by
  unfold following
  split
  · assumption
  · trivial

theorem jump_inRange {id : String} {t : Target} (h : site.jump id = .ok t) :
    t.InRange site.ids.length := by
  unfold jump at h
  cases found : site.ids.idxOf? id with
  | none => simp [found, fail] at h
  | some index =>
    simp only [found, Except.ok.injEq] at h
    subst h
    exact idxOf?_lt found

theorem target_inRange {raw : Option Script.Target} {t : Target} (h : site.target raw = .ok t) :
    t.InRange site.ids.length := by
  unfold target at h
  split at h
  · cases h
    exact following_inRange
  · split at h
    · cases h
      exact following_inRange
    · split at h
      · cases h
        trivial
      · exact jump_inRange h
  · exact jump_inRange h
  · split at h
    · simp [fail] at h
    · cases h
      trivial

/-! ### Questions -/

theorem sharedType_typed (options : List String) :
    sharedType options = .text ∨ ∀ o ∈ options, (Value.ofText o).type = sharedType options := by
  cases options with
  | nil => exact Or.inl rfl
  | cons first rest =>
    by_cases shared : rest.all (fun o => (Value.ofText o).type == (Value.ofText first).type) = true
    · right
      simp only [sharedType, shared, if_true]
      intro o member
      rcases List.mem_cons.mp member with rfl | later
      · rfl
      · exact beq_iff_eq.mp (List.all_eq_true.mp shared o later)
    · left
      simp [sharedType, shared]

theorem optionType_typed {q : Script.Question} {options : List String} {type : AnswerType}
    (h : site.optionType q options = .ok type) :
    type = .text ∨ ∀ o ∈ options, (Value.ofText o).type = type := by
  unfold optionType at h
  split at h
  iterate 3
    cases h
    exact sharedType_typed options
  · rename_i declared notList notUnknown given
    cases found : options.find? fun o => ((Value.text o).coerce? declared).isNone with
    | some o => simp [found, fail] at h
    | none =>
      simp only [found, Except.ok.injEq] at h
      subst h
      by_cases isText : declared = .text
      · exact Or.inl isText
      · right
        intro o member
        have fits := List.find?_eq_none.mp found o member
        rw [Value.coerce?_of_text isText notUnknown] at fits
        by_contra other
        simp [other] at fits

theorem asked_typed {q : Script.Question} {p : AskedParameter} (h : site.asked q = .ok p) :
    p.OptionsTyped := by
  simp only [asked, fail, refuse_ok] at h
  obtain ⟨_, h⟩ := h
  split at h
  · rw [← pure_ok.mp h]
    exact Or.inr (by simp)
  · obtain ⟨options, _, h⟩ := bind_ok.mp h
    obtain ⟨_, h⟩ := refuse_ok.mp h
    obtain ⟨type, typed, h⟩ := bind_ok.mp h
    rw [← pure_ok.mp h]
    exact optionType_typed typed

theorem choice_sound {options : List Yaml.Value} {kind : StepKind}
    (h : site.choice options = .ok kind) :
    ∃ parameters, kind = .question parameters .anyOf ∧ parameters ≠ [] ∧
      ∀ p ∈ parameters, p.OptionsTyped := by
  simp only [choice, fail, refuse_ok] at h
  obtain ⟨filled, h⟩ := h
  obtain ⟨names, read, h⟩ := bind_ok.mp h
  refine ⟨_, (pure_ok.mp h).symm, ?_, ?_⟩
  · intro empty
    have paired := (mapM_ok.mp read).length_eq
    rw [List.map_eq_nil_iff.mp empty] at paired
    exact filled (List.isEmpty_iff_length_eq_zero.mpr paired)
  · intro p member
    obtain ⟨name, _, rfl⟩ := List.mem_map.mp member
    exact Or.inr (by simp)

theorem questions_sound {raw : List Script.Question} {kind : StepKind}
    (h : site.questions raw = .ok kind) :
    ∃ parameters, kind = .question parameters .all ∧ parameters ≠ [] ∧
      ∀ p ∈ parameters, p.OptionsTyped := by
  simp only [questions, fail, refuse_ok] at h
  obtain ⟨filled, h⟩ := h
  obtain ⟨parameters, read, h⟩ := bind_ok.mp h
  refine ⟨parameters, (pure_ok.mp h).symm, ?_, ?_⟩
  · rintro rfl
    exact filled (List.isEmpty_iff_length_eq_zero.mpr (mapM_ok.mp read).length_eq)
  · intro p member
    obtain ⟨q, _, asked⟩ := mapM_ok_mem read member
    exact asked_typed asked

/-! ### Derivations and gates -/

theorem derivation_sound {raw : Script.Derivation} {kind : StepKind}
    (h : site.derivation raw = .ok kind) :
    ∃ name type cases, kind = .derivation name type cases ∧ cases ≠ [] := by
  simp only [derivation, fail, refuse_ok] at h
  obtain ⟨_, h⟩ := h
  split at h
  · obtain ⟨cases, read, h⟩ := bind_ok.mp h
    obtain ⟨formula, _, rfl⟩ := map_ok.mp read
    exact ⟨_, _, _, (pure_ok.mp h).symm, List.cons_ne_nil _ _⟩
  · obtain ⟨cases, read, h⟩ := bind_ok.mp h
    refine ⟨_, _, cases, (pure_ok.mp h).symm, ?_⟩
    rintro rfl
    cases (mapM_ok.mp read).length_eq
  · obtain ⟨_, stopped, _⟩ := bind_ok.mp h
    cases stopped

theorem gate_sound {raw : Script.Gate} {kind : StepKind} (h : site.gate raw = .ok kind) :
    ∃ condition onTrue onFalse fallback, kind = .gate condition onTrue onFalse fallback ∧
      onTrue.InRange site.ids.length ∧ onFalse.InRange site.ids.length ∧
      ∀ index ∈ fallback, index < site.ids.length := by
  unfold gate at h
  obtain ⟨condition, _, h⟩ := bind_ok.mp h
  obtain ⟨onTrue, trueRead, h⟩ := bind_ok.mp h
  obtain ⟨onFalse, falseRead, h⟩ := bind_ok.mp h
  have trueTarget := target_inRange trueRead
  have falseTarget := target_inRange falseRead
  split at h
  · exact ⟨condition, onTrue, onFalse, none, (pure_ok.mp h).symm, trueTarget, falseTarget, by simp⟩
  · split at h
    · rename_i index found
      exact ⟨condition, onTrue, onFalse, some index, (pure_ok.mp h).symm, trueTarget, falseTarget,
        by simpa using idxOf?_lt found⟩
    · simp [fail] at h

/-! ### Steps -/

theorem build_sound {s : Step} (h : site.build = .ok s) : s.Sound site.ids.length := by
  unfold build at h
  obtain ⟨kind, kindRead, h⟩ := bind_ok.mp h
  unfold StepSite.kind at kindRead
  split at kindRead
  · obtain ⟨parameters, rfl, sound⟩ := choice_sound kindRead
    obtain ⟨next, nextRead, h⟩ := bind_ok.mp h
    rw [← pure_ok.mp h]
    exact ⟨target_inRange nextRead, sound⟩
  · obtain ⟨parameters, rfl, sound⟩ := questions_sound kindRead
    obtain ⟨next, nextRead, h⟩ := bind_ok.mp h
    rw [← pure_ok.mp h]
    exact ⟨target_inRange nextRead, sound⟩
  · obtain ⟨name, type, cases, rfl, sound⟩ := derivation_sound kindRead
    obtain ⟨next, nextRead, h⟩ := bind_ok.mp h
    rw [← pure_ok.mp h]
    exact ⟨target_inRange nextRead, sound⟩
  · split at kindRead
    · simp [fail] at kindRead
    · obtain ⟨condition, onTrue, onFalse, fallback, rfl, sound⟩ := gate_sound kindRead
      rw [← pure_ok.mp h]
      exact ⟨sound.1, sound⟩
  · simp [failLine] at kindRead

end StepSite

theorem buildSteps_forall {places : Places} {ids : List String} {start : Nat}
    {raw : List Script.Step} {steps : List Step} (h : buildSteps places ids start raw = .ok steps) :
    steps.length = raw.length ∧ ∀ s ∈ steps, s.Sound ids.length := by
  induction raw generalizing start steps with
  | nil =>
    cases h
    simp
  | cons step rest ih =>
    unfold buildSteps at h
    obtain ⟨built, buildRead, h⟩ := bind_ok.mp h
    obtain ⟨others, restRead, h⟩ := bind_ok.mp h
    rw [← pure_ok.mp h]
    obtain ⟨length, sound⟩ := ih restRead
    refine ⟨by simp [length], ?_⟩
    intro s member
    rcases List.mem_cons.mp member with rfl | later
    · exact StepSite.build_sound buildRead
    · exact sound s later

theorem Step.typed_sound {n : Nat} {s : Step} {table : TypeTable} (h : s.Sound n) :
    (s.typed table).Sound n := by
  unfold Step.typed
  cases kind : s.kind with
  | derivation name type cases => simpa [Sound, kind] using h
  | _ => simpa [kind] using h

end Questionnaire
