import Questionnaire.Proofs.Model.Checks
import Questionnaire.Proofs.Model.DerivedTypes
import Questionnaire.Proofs.Model.Parts

/-!
Compiled models are well typed.

`WellTyped` is what the checks of types leave behind: the declared types are those of the constants, of
the answers and of what is derived, conditions are Boolean, and formulas have the type of their
derivation. The last is so where the types of derivations agree with their formulas:
`CompiledFrom.wellTyped`.
-/

namespace Questionnaire

structure Formula.IsCondition (env : TypeEnv) (f : Formula) : Prop where
  literals : f.root.KnownLiterals
  checked : f.root.checkCondition env = .ok ()

/-- A case whose formula has the type of its derivation, as far as its type is known. A text can be
made of everything. -/
structure Case.WellTyped (env : TypeEnv) (type : AnswerType) (c : Case) : Prop where
  guard : ∀ g ∈ c.guard, g.IsCondition env
  literals : c.formula.root.KnownLiterals
  formula : ∃ t, c.formula.root.type env = .ok t ∧ (t = .unknown ∨ t = type ∨ type = .text)

/-- A step that fits the types of names. -/
def Step.WellTyped (env : TypeEnv) (s : Step) : Prop :=
  match s.kind with
  | .question parameters mode => ∀ p ∈ parameters,
      env p.name = some p.valueType ∧ (mode = .anyOf → p.valueType = .boolean)
  | .derivation name type cases => env name = some type ∧ ∀ c ∈ cases, c.WellTyped env type
  | .gate condition .. => condition.IsCondition env

structure Model.WellTyped (m : Model) : Prop where
  constants : ∀ c ∈ m.constants.toList, m.types.get? c.name = some c.value.type
  steps : ∀ s ∈ m.steps, s.WellTyped m.types.get?

/-! ### Constants -/

theorem addConstants_typed {source : Source} {place : Nat} {constants out : ParameterStore}
    {raw : List Script.Constant} (typed : ∀ c ∈ constants.toList, c.type = c.value.type)
    (h : addConstants source place constants raw = .ok out) :
    ∀ c ∈ out.toList, c.type = c.value.type := by
  induction raw generalizing constants with
  | nil =>
    cases h
    exact typed
  | cons first rest ih =>
    unfold addConstants at h
    simp only at h
    split at h
    · cases h
    · split at h
      · cases h
      · split at h
        · cases h
        · refine ih ?_ h
          intro c member
          rcases ParameterStore.mem_insert member with rfl | before
          · rfl
          · exact typed c before

/-! ### Models -/

namespace Model.CompiledFrom

variable {m : Model} {source : Source} {script : Script} {steps : List Step}
  {constants : ParameterStore} {declarations : List Declaration} {index : Nat} {s : Step}

theorem types_constant (stages : CompiledFrom source script steps constants declarations m)
    {c : Parameter} (member : c ∈ m.constants.toList) :
    m.types.get? c.name = some c.value.type := by
  have constants_eq : m.constants = constants := by rw [stages.model]
  rw [constants_eq] at member
  have listed : ⟨c.name, .constant, c.type⟩ ∈ declarations := by
    rw [(declare_ok.mp stages.declared).1]
    exact List.mem_append_left _ (List.mem_map.mpr ⟨c, member, rfl⟩)
  have typed : c.type = c.value.type :=
    addConstants_typed (by simp) stages.read c member
  rw [stages.types_declared listed, ← typed]
  rfl

theorem types_asked (stages : CompiledFrom source script steps constants declarations m)
    (found : steps[index]? = some s) {p : AskedParameter} (member : p ∈ s.asked) :
    m.types.get? p.name = some p.valueType := by
  have made : ⟨p.name, .question index, p.valueType⟩ ∈ s.declarations index := by
    unfold Step.asked at member
    unfold Step.declarations
    cases kind : s.kind with
    | question parameters mode =>
      rw [kind] at member
      exact List.mem_map.mpr ⟨p, member, rfl⟩
    | _ => simp [kind] at member
  have listed : ⟨p.name, .question index, p.valueType⟩ ∈ declarations := by
    rw [(declare_ok.mp stages.declared).1]
    exact List.mem_append_right _
      (mem_declarationsOf.mpr ⟨index, s, found, by rwa [Nat.zero_add]⟩)
  rw [stages.types_declared listed]
  rfl

theorem not_mem_untyped (stages : CompiledFrom source script steps constants declarations m)
    {name : String} {type t : AnswerType} {cases : List Case} (found : m.steps[index]? = some s)
    (kind : s.kind = .derivation name type cases)
    (declared : script.declaredTypes[index]? = some (some t)) : name ∉ (m.untyped script).names := by
  intro member
  obtain ⟨⟨_, others⟩, listed, rfl⟩ := List.mem_map.mp member
  obtain ⟨other, s', type', found', untyped, kind'⟩ := mem_untypedDerivations.mp listed
  have here := (stages.wellFormed.derivation _ index).mpr
    ⟨s, found, Step.derivedName?_eq_some.mpr ⟨_, _, kind⟩⟩
  have there := (stages.wellFormed.derivation _ other).mpr
    ⟨s', found', Step.derivedName?_eq_some.mpr ⟨_, _, kind'⟩⟩
  cases here.symm.trans there
  cases declared.symm.trans untyped

theorem derived_type (stages : CompiledFrom source script steps constants declarations m)
    (agree : m.TypesAgree script) {name : String} {type : AnswerType} {cases : List Case}
    {known : Option AnswerType} (found : m.steps[index]? = some s)
    (declared : script.declaredTypes[index]? = some known)
    (kind : s.kind = .derivation name type cases) :
    type = known.getD (firstType m.types.get? cases) := by
  cases known with
  | none => exact agree index s name type cases found declared kind
  | some t =>
    have free := stages.not_mem_untyped found kind declared
    have derived := stages.types_derived found kind
    obtain ⟨built, there, rfl⟩ := stages.step_eq_some.mp found
    obtain ⟨before, builtKind, _⟩ := Step.typed_derivation.mp kind
    obtain ⟨raw, given, made⟩ := buildSteps_getElem? stages.built there
    obtain ⟨known, same, builtType⟩ := StepSite.build_derivation made builtKind
    have read : raw.derivation.bind (·.type) = some t := by
      simpa [Script.declaredTypes, given] using declared
    obtain ⟨d, rawDerivation, rawType⟩ := Option.bind_eq_some_iff.mp read
    have known_eq : known = some t := by
      simpa [rawDerivation, rawType] using same
    have listed : ⟨name, .derivation index, before⟩ ∈ declarations := by
      rw [(declare_ok.mp stages.declared).1]
      refine List.mem_append_right _ (mem_declarationsOf.mpr ⟨index, built, there, ?_⟩)
      simp [Step.declarations, builtKind]
    rw [stages.types_get?, get?_inferTypes (stages.untyped_eq ▸ free),
      (find?_keyed (declare_ok.mp stages.declared).2).mpr ⟨listed, rfl⟩] at derived
    simpa [builtType, known_eq] using derived.symm

theorem wellTyped (stages : CompiledFrom source script steps constants declarations m)
    (agree : m.TypesAgree script) : m.WellTyped := by
  refine ⟨fun c => stages.types_constant, ?_⟩
  intro s member
  obtain ⟨index, found⟩ := List.mem_iff_getElem?.mp member
  obtain ⟨built, there, typed⟩ := stages.step_eq_some.mp found
  obtain ⟨raw, given, made⟩ := buildSteps_getElem? stages.built there
  have declared : script.declaredTypes[index]? = some (raw.derivation.bind (·.type)) := by
    simp [Script.declaredTypes, given]
  have checked := checked_of_checkTypes stages.types there declared
  have literals := StepSite.build_known made
  unfold Step.Checked at checked
  unfold Step.WellTyped
  cases kind : built.kind with
  | question parameters mode =>
    have same : built = s := by simpa [Step.typed, kind] using typed
    subst same
    have labelled := StepSite.build_labelled made
    rw [kind] at labelled ⊢
    intro p listed
    exact ⟨stages.types_asked there (by simpa [Step.asked, kind] using listed),
      (labelled p listed).1⟩
  | derivation name before cases =>
    have derived : s.kind = .derivation name _ cases :=
      typed ▸ Step.typed_derivation.mpr ⟨before, kind, rfl⟩
    have type := stages.derived_type agree found declared derived
    rw [derived]
    refine ⟨stages.types_derived found derived, fun c listed => ?_⟩
    rw [kind] at checked literals
    rw [type, stages.types_get?]
    have known : ∀ f ∈ c.formulas, f.root.KnownLiterals := fun f here =>
      literals f (List.mem_flatMap.mpr ⟨c, listed, here⟩)
    have parts := checked.checks c listed
    exact {
      guard := fun g guarded => ⟨known g (by simp [Case.formulas, Option.mem_def.mp guarded]),
        parts.guard g guarded⟩
      literals := known c.formula (by simp [Case.formulas])
      formula := checked.formula listed }
  | gate condition onTrue onFalse fallback =>
    have same : built = s := by simpa [Step.typed, kind] using typed
    subst same
    rw [kind] at checked literals ⊢
    rw [stages.types_get?]
    exact ⟨literals condition (List.mem_singleton.mpr rfl), checked⟩

end Model.CompiledFrom

end Questionnaire
