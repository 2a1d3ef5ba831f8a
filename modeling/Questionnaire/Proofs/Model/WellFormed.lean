import Questionnaire.Proofs.Model.Building
import Questionnaire.Proofs.Model.Declared

/-!
Compiled models are well formed.

`WellFormed` is what a run may rely on. Main statement: `wellFormed_of_text`.
-/

namespace Questionnaire.Model

/-- What every compiled model keeps to: there is a step to begin with, each step is sound, and a name
has exactly one origin, which is the constant, the question or the derivation of that name. -/
structure WellFormed (m : Model) : Prop where
  filled : m.steps ≠ []
  sound : ∀ s ∈ m.steps, s.Sound m.steps.length
  distinct : ∀ s ∈ m.steps, s.askedNames.Nodup
  constant : ∀ name, m.origin? name = some .constant ↔ name ∈ m.constants.names
  question : ∀ name index, m.origin? name = some (.question index) ↔
    ∃ s, m.steps[index]? = some s ∧ name ∈ s.askedNames
  derivation : ∀ name index, m.origin? name = some (.derivation index) ↔
    ∃ s, m.steps[index]? = some s ∧ s.derivedName? = some name

variable {m : Model} {source : Source} {script : Script} {steps : List Step}
  {constants : ParameterStore} {declarations : List Declaration}

theorem CompiledFrom.step_eq_some
    (stages : CompiledFrom source script steps constants declarations m) {index : Nat} {s : Step} :
    m.steps[index]? = some s ↔ ∃ built, steps[index]? = some built ∧
      built.typed (inferTypes steps (script.steps.map fun s => s.derivation.bind (·.type))
        declarations) = s := by
  rw [stages.model]
  simp

theorem CompiledFrom.names_distinct
    (stages : CompiledFrom source script steps constants declarations m) :
    (m.declarations.map (·.name)).Nodup := by
  simpa [stages.model, Function.comp_def] using (declare_ok.mp stages.declared).2

/-- A declared name comes from the constants or from the step of its origin. -/
theorem CompiledFrom.origin?_eq_some
    (stages : CompiledFrom source script steps constants declarations m) {name : String}
    {origin : Origin} :
    m.origin? name = some origin ↔
      (origin = .constant ∧ name ∈ m.constants.names) ∨
        ∃ (index : Nat) (s : Step), m.steps[index]? = some s ∧
          ((origin = .question index ∧ name ∈ s.askedNames) ∨
            (origin = .derivation index ∧ s.derivedName? = some name)) := by
  have looked_up : m.origin? name = some origin ↔
      ∃ d ∈ declarations, d.name = name ∧ d.origin = origin := by
    simp only [origin?, declaration?, Option.map_eq_some_iff, find?_keyed stages.names_distinct]
    rw [stages.model]
    constructor
    · rintro ⟨_, ⟨member, rfl⟩, rfl⟩
      obtain ⟨d, present, rfl⟩ := List.mem_map.mp member
      exact ⟨d, present, by simp⟩
    · rintro ⟨d, present, rfl, rfl⟩
      exact ⟨_, ⟨List.mem_map_of_mem present, by simp⟩, by simp⟩
  have constants_eq : m.constants = constants := by rw [stages.model]
  rw [looked_up, constants_eq, (declare_ok.mp stages.declared).1]
  simp only [List.mem_append, or_and_right, exists_or, mem_declarationsOf, stages.step_eq_some]
  apply or_congr
  · simp only [List.mem_map, exists_exists_and_eq_and, ParameterStore.names]
    constructor
    · rintro ⟨c, member, named, made⟩
      exact ⟨made.symm, c, member, named⟩
    · rintro ⟨made, c, member, named⟩
      exact ⟨c, member, named, made.symm⟩
  · constructor
    · rintro ⟨d, ⟨index, s, found, member⟩, named⟩
      rw [Nat.zero_add] at member
      have made := mem_declarations.mp ⟨d, member, named⟩
      exact ⟨index, _, ⟨s, found, rfl⟩, by simpa using made⟩
    · rintro ⟨index, _, ⟨s, found, rfl⟩, made⟩
      simp only [Step.typed_askedNames, Step.typed_derivedName?] at made
      obtain ⟨d, member, named⟩ := mem_declarations.mpr made
      exact ⟨d, ⟨index, s, found, by rwa [Nat.zero_add]⟩, named⟩

theorem CompiledFrom.wellFormed
    (stages : CompiledFrom source script steps constants declarations m) : m.WellFormed := by
  obtain ⟨length, sound⟩ := buildSteps_forall stages.built
  have steps_length : m.steps.length = script.steps.length := by simp [stages.model, length]
  refine ⟨?_, ?_, ?_, ?_, ?_, ?_⟩
  · intro empty
    rw [empty] at steps_length
    exact stages.filled (List.length_eq_zero_iff.mp steps_length.symm)
  · intro s member
    obtain ⟨index, found⟩ := List.mem_iff_getElem?.mp member
    obtain ⟨built, present, rfl⟩ := stages.step_eq_some.mp found
    rw [steps_length]
    simpa using Step.typed_sound (sound built (List.mem_of_getElem? present))
  · intro s member
    obtain ⟨index, found⟩ := List.mem_iff_getElem?.mp member
    obtain ⟨built, present, rfl⟩ := stages.step_eq_some.mp found
    obtain ⟨same, distinct⟩ := declare_ok.mp stages.declared
    rw [same, List.map_append, List.nodup_append] at distinct
    have declared : ((built.declarations (0 + index)).map (·.name)).Sublist
        ((declarationsOf 0 steps).map (·.name)) := (declarations_sublist present).map _
    rw [Step.typed_askedNames]
    exact distinct.2.1.sublist ((askedNames_sublist built _).trans declared)
  · intro name
    simp [stages.origin?_eq_some]
  · intro name index
    simp only [stages.origin?_eq_some, reduceCtorEq, false_and, false_or, or_false,
      Origin.question.injEq]
    constructor
    · rintro ⟨_, s, found, rfl, asked⟩
      exact ⟨s, found, asked⟩
    · rintro ⟨s, found, asked⟩
      exact ⟨index, s, found, rfl, asked⟩
  · intro name index
    simp only [stages.origin?_eq_some, reduceCtorEq, false_and, false_or,
      Origin.derivation.injEq]
    constructor
    · rintro ⟨_, s, found, rfl, derived⟩
      exact ⟨s, found, derived⟩
    · rintro ⟨s, found, derived⟩
      exact ⟨index, s, found, rfl, derived⟩

theorem wellFormed_of_text {text : String} (compiled : ofText text = .ok m) : m.WellFormed := by
  obtain ⟨_, _, _, _, stages⟩ := ofText_ok compiled
  exact stages.wellFormed

/-! ### Looking up what is asked -/

theorem WellFormed.origin?_asked (wellFormed : m.WellFormed) {index : Nat} {s : Step}
    {p : AskedParameter} (found : m.steps[index]? = some s) (member : p ∈ s.asked) :
    m.origin? p.name = some (.question index) :=
  (wellFormed.question p.name index).mpr ⟨s, found, List.mem_map_of_mem member⟩

theorem WellFormed.asked?_eq_some (wellFormed : m.WellFormed) {index : Nat} {s : Step}
    {p : AskedParameter} (found : m.steps[index]? = some s) (member : p ∈ s.asked) :
    m.asked? p.name = some (index, p) := by
  obtain ⟨d, declared, origin⟩ := Option.map_eq_some_iff.mp (wellFormed.origin?_asked found member)
  have distinct := wellFormed.distinct s (List.mem_of_getElem? found)
  have lookup : s.asked.find? (·.name == p.name) = some p :=
    (find?_keyed distinct).mpr ⟨member, rfl⟩
  simp [asked?, declared, origin, found, lookup]

theorem WellFormed.options_typed (wellFormed : m.WellFormed) {s : Step} {p : AskedParameter}
    (step : s ∈ m.steps) (member : p ∈ s.asked) : p.OptionsTyped := by
  have sound := (wellFormed.sound s step).2
  unfold Step.asked at member
  cases kind : s.kind with
  | question parameters mode =>
    rw [kind] at sound member
    exact sound.2 p member
  | _ => simp [kind] at member

end Questionnaire.Model
