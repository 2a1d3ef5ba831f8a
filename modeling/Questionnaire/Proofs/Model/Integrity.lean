import Questionnaire.Proofs.Model.Links
import Questionnaire.Proofs.Model.WellTyped
import Questionnaire.Proofs.Run.Ends
import Questionnaire.Proofs.Run.Lockstep

/-!
Compiled models hold together.

Each phase of compilation checks its own part: the ids, the targets, the names, the types. `Integrity`
puts together what they leave behind, and with it every number of a step that a run looks up is there:
`integrity_of_text`.
-/

namespace Questionnaire

def Step.names (s : Step) : List String := s.askedNames ++ s.derivedName?.toList

/-! ### Names in formulas -/

theorem Expr.isSome_of_type {env : TypeEnv} {e : Expr} {t : AnswerType} (typed : e.type env = .ok t) :
    ∀ name ∈ e.names, (env name).isSome = true := by
  induction e generalizing t with
  | literal => exact List.forall_mem_nil _
  | ref name span =>
    intro other member
    have same : other = name := List.mem_singleton.mp member
    subst same
    unfold Expr.type at typed
    split at typed
    · rename_i found
      rw [found]
      rfl
    · cases typed
  | unary op e span ih =>
    obtain ⟨_, operand, _⟩ := bind_ok.mp typed
    exact ih operand
  | binary op l r span ihl ihr =>
    obtain ⟨_, left, typed⟩ := bind_ok.mp typed
    obtain ⟨_, right, _⟩ := bind_ok.mp typed
    intro name member
    rcases List.mem_append.mp member with here | here
    · exact ihl left name here
    · exact ihr right name here
  | call1 f a span ih =>
    obtain ⟨_, arg, _⟩ := bind_ok.mp typed
    exact ih arg
  | call2 f a b span iha ihb =>
    obtain ⟨_, first, typed⟩ := bind_ok.mp typed
    obtain ⟨_, _, typed⟩ := bind_ok.mp typed
    obtain ⟨_, second, _⟩ := bind_ok.mp typed
    intro name member
    rcases List.mem_append.mp member with here | here
    · exact iha first name here
    · exact ihb second name here

theorem Expr.type_of_checkCondition {env : TypeEnv} {e : Expr}
    (checked : e.checkCondition env = .ok ()) : ∃ t, e.type env = .ok t := by
  obtain ⟨t, typed, _⟩ := bind_ok.mp checked
  exact ⟨t, typed⟩

theorem Step.Checked.typed {env : TypeEnv} {s : Step} {known : Option AnswerType}
    (checked : s.Checked env known) : ∀ f ∈ s.kind.formulas, ∃ t, f.root.type env = .ok t := by
  unfold Step.Checked at checked
  intro f member
  cases kind : s.kind with
  | question => simp [kind, StepKind.formulas] at member
  | gate condition onTrue onFalse fallback =>
    rw [kind] at checked member
    have same : f = condition := List.mem_singleton.mp member
    rw [same]
    exact Expr.type_of_checkCondition checked
  | derivation name type cases =>
    rw [kind] at checked member
    obtain ⟨c, listed, here⟩ := List.mem_flatMap.mp member
    have parts := checked.checks c listed
    rcases List.mem_append.mp here with guard | formula
    · exact Expr.type_of_checkCondition (parts.guard f (Option.mem_toList.mp guard))
    · have same : f = c.formula := List.mem_singleton.mp formula
      rw [same]
      exact parts.formula

/-! ### Names of steps -/

theorem Step.declarations_names (s : Step) (index : Nat) :
    (s.declarations index).map (·.name) = s.names := by
  unfold declarations names askedNames asked derivedName?
  cases s.kind <;> simp [Function.comp_def]

theorem declarationsOf_names (start : Nat) (steps : List Step) :
    (declarationsOf start steps).map (·.name) = steps.flatMap (·.names) := by
  induction steps generalizing start with
  | nil => rfl
  | cons s rest ih => rw [declarationsOf, List.map_append, s.declarations_names, ih, List.flatMap_cons]

@[simp] theorem Step.typed_names (s : Step) (table : TypeTable) : (s.typed table).names = s.names := by
  rw [names, names, typed_askedNames, typed_derivedName?]

@[simp] theorem Step.typed_formulas (s : Step) (table : TypeTable) :
    (s.typed table).kind.formulas = s.kind.formulas := by
  unfold typed
  split
  · rename_i kind
    simp [StepKind.formulas, kind]
  · rfl

namespace Model

/-- A declaration of a name that its origin really gives a value to: a constant, a question step that
asks for it, or a derivation step that derives it. -/
def Makes (m : Model) (d : Declaration) : Prop :=
  match d.origin with
  | .constant => d.name ∈ m.constants.names
  | .question i => ∃ s, m.steps[i]? = some s ∧ s.isQuestion = true ∧ d.name ∈ s.askedNames
  | .derivation i => ∃ s type cases, m.steps[i]? = some s ∧ s.kind = .derivation d.name type cases

/-- What the phases of compilation leave behind. -/
structure Integrity (script : Script) (m : Model) : Prop where
  filled : m.steps ≠ []
  ids_distinct : (m.steps.map (·.id)).Nodup
  ids_proper : ∀ s ∈ m.steps, Text.isBlankText s.id = false ∧ s.id ≠ "next" ∧ s.id ≠ "end"
  length : m.steps.length = script.steps.length
  linked : ∀ (index : Nat) (s : Step), m.steps[index]? = some s →
    ∃ raw, script.steps[index]? = some raw ∧ s.id = raw.id ∧ s.Linked m.steps index raw
  sound : ∀ s ∈ m.steps, s.Sound m.steps.length
  names : m.declarations.map (·.name) = m.constants.names ++ m.steps.flatMap (·.names)
  names_distinct : (m.declarations.map (·.name)).Nodup
  made : ∀ d ∈ m.declarations, m.Makes d
  declared : ∀ s ∈ m.steps, ∀ f ∈ s.kind.formulas, ∀ name ∈ f.references,
    ∃ d ∈ m.declarations, d.name = name

variable {m : Model} {source : Source} {script : Script} {steps : List Step}
  {constants : ParameterStore} {declarations : List Declaration} {s : Step} {name : String}

namespace CompiledFrom

theorem ids_proper (stages : CompiledFrom source script steps constants declarations m)
    (step : s ∈ m.steps) : Text.isBlankText s.id = false ∧ s.id ≠ "next" ∧ s.id ≠ "end" := by
  have listed : s.id ∈ script.steps.map (·.id) := by
    rw [← stages.ids_eq]
    exact List.mem_map_of_mem step
  obtain ⟨filled, free⟩ := checkIds_proper stages.ids s.id listed
  simp only [reservedIds, List.mem_cons, List.not_mem_nil, or_false, not_or] at free
  exact ⟨filled, free⟩

theorem names_eq (stages : CompiledFrom source script steps constants declarations m) :
    m.declarations.map (·.name) = m.constants.names ++ m.steps.flatMap (·.names) := by
  have before : declarations.map (·.name) = constants.names ++ steps.flatMap (·.names) := by
    rw [(declare_ok.mp stages.declared).1, List.map_append, declarationsOf_names, List.map_map]
    rfl
  rw [stages.model]
  simpa [Function.comp_def, List.flatMap_map] using before

theorem makes (stages : CompiledFrom source script steps constants declarations m)
    {d : Declaration} (listed : d ∈ m.declarations) : m.Makes d := by
  have origin : m.origin? d.name = some d.origin := by
    have found : m.declaration? d.name = some d :=
      (find?_keyed stages.names_distinct).mpr ⟨listed, rfl⟩
    rw [origin?, found, Option.map_some]
  unfold Makes
  cases here : d.origin with
  | constant => exact (stages.wellFormed.constant d.name).mp (origin.trans (congrArg some here))
  | question i =>
    obtain ⟨s, found, asked⟩ :=
      (stages.wellFormed.question d.name i).mp (origin.trans (congrArg some here))
    refine ⟨s, found, ?_, asked⟩
    obtain ⟨p, member, _⟩ := List.mem_map.mp asked
    unfold Step.asked at member
    unfold Step.isQuestion
    cases kind : s.kind with
    | question => rfl
    | _ => simp [kind] at member
  | derivation i =>
    obtain ⟨s, found, derived⟩ :=
      (stages.wellFormed.derivation d.name i).mp (origin.trans (congrArg some here))
    obtain ⟨type, cases, kind⟩ := Step.derivedName?_eq_some.mp derived
    exact ⟨s, type, cases, found, kind⟩

theorem declared_of_reference (stages : CompiledFrom source script steps constants declarations m)
    (step : s ∈ m.steps) {f : Formula} (member : f ∈ s.kind.formulas)
    (read : name ∈ f.root.names) : ∃ d ∈ m.declarations, d.name = name := by
  obtain ⟨index, found⟩ := List.mem_iff_getElem?.mp step
  obtain ⟨built, there, rfl⟩ := stages.step_eq_some.mp found
  obtain ⟨raw, given, _⟩ := buildSteps_getElem? stages.built there
  have known : script.declaredTypes[index]? = some (raw.derivation.bind (·.type)) := by
    simp [Script.declaredTypes, given]
  have checked := checked_of_checkTypes stages.types there known
  rw [Step.typed_formulas] at member
  obtain ⟨t, typed⟩ := checked.typed f member
  have declared : (m.types.get? name).isSome = true := by
    rw [stages.types_get?]
    exact Expr.isSome_of_type typed name read
  rw [Model.types, TypeTable.get?_ofDeclarations, Option.isSome_map, List.find?_isSome] at declared
  obtain ⟨d, listed, named⟩ := declared
  exact ⟨d, listed, beq_iff_eq.mp named⟩

theorem integrity (stages : CompiledFrom source script steps constants declarations m) :
    m.Integrity script where
  filled := stages.wellFormed.filled
  ids_distinct := stages.ids_nodup
  ids_proper _ := stages.ids_proper
  length := by
    have same := congrArg List.length stages.ids_eq
    rwa [List.length_map, List.length_map] at same
  linked _ _ := stages.linked
  sound := stages.wellFormed.sound
  names := stages.names_eq
  names_distinct := stages.names_distinct
  made _ := stages.makes
  declared _ step _ member _ read := stages.declared_of_reference step member
    (mem_distinctNames.mp read)

end CompiledFrom

/-! ### Runs -/

variable {text : String} {n index : Nat} {w : Walk} {known : ParameterStore}

theorem fallback?_lt {size : Nat} (sound : s.Sound size) {fallback : Nat}
    (given : s.fallback? = some fallback) : fallback < size := by
  unfold Step.Sound at sound
  unfold Step.fallback? at given
  split at given
  · rename_i kind
    rw [kind] at sound
    exact sound.2.2.2 fallback given
  · cases given

/-- The step that a run is at is there, and so are the one that it falls back on and the one that it
halts on. -/
theorem WellFormed.step_of_rounds (wellFormed : m.WellFormed)
    (rounds : m.Rounds n (.start known) (.step 0) w (.step index)) :
    ∃ s, m.steps[index]? = some s ∧
      (∀ fallback, s.fallback? = some fallback → fallback < m.steps.length) ∧
        ∀ v question, m.visit w.known index s = .ok v → v.flow = .ask question →
          question < m.steps.length := by
  have inside : index < m.steps.length :=
    rounds.inRange wellFormed (List.length_pos_iff.mpr wellFormed.filled)
  have found := List.getElem?_eq_getElem inside
  refine ⟨_, found, ?_, ?_⟩
  · intro fallback given
    exact fallback?_lt (wellFormed.sound _ (List.mem_of_getElem? found)) given
  · intro v question visited asks
    obtain ⟨_, there, _⟩ := wellFormed.halts_open found visited asks
    exact (List.getElem?_eq_some_iff.mp there).1

/-- Compiled models hold together, and every number of a step that is looked up while a model runs is
there: that of the step that asks for a name, of a step that a run comes to, of its fallback and of the
step to halt on. -/
theorem integrity_of_text (compiled : Model.ofText text = .ok m) :
    (∃ script, Script.ofText text = .ok script ∧ m.Integrity script) ∧
      (∀ name index, m.origin? name = some (.question index) → index < m.steps.length) ∧
      ∀ known n w index, m.Rounds n (.start known) (.step 0) w (.step index) →
        ∃ s, m.steps[index]? = some s ∧
          (∀ fallback, s.fallback? = some fallback → fallback < m.steps.length) ∧
            ∀ v question, m.visit w.known index s = .ok v → v.flow = .ask question →
              question < m.steps.length := by
  have wellFormed := wellFormed_of_text compiled
  refine ⟨?_, ?_, fun _ _ _ _ => wellFormed.step_of_rounds⟩
  · cases read : Script.ofText text with
    | error e => simp [Model.ofText, read] at compiled
    | ok script =>
      obtain ⟨_, _, _, stages⟩ := compiledFrom_of_text read compiled
      exact ⟨script, rfl, stages.integrity⟩
  · intro name index origin
    obtain ⟨_, found, _⟩ := (wellFormed.question name index).mp origin
    exact (List.getElem?_eq_some_iff.mp found).1

/-- A subsidy for low incomes: a gate that falls back on a question and leads to a derivation. -/
def subsidyScript : String :=
  "constants:\n  - \x7b name: top, value: 9 \x7d\nsteps:\n" ++
    "  - id: loon\n    ask: [\x7b name: loon, type: Double \x7d]\n" ++
    "  - id: toets\n    gate: \x7b when: loon < top, else: \x7b outcome: nee \x7d, ask: loon \x7d\n" ++
    "  - id: recht\n    derive: \x7b name: rest, formula: top - loon \x7d\n"

def subsidyModel : Model where
  info := []
  constants := .ofList [.ofValue "top" (.number ((Decimal.ofInt? 9).getD .zero))]
  steps := [
    ⟨"loon", "", .question [⟨"loon", .number, .number, [], ""⟩] .all, .step 1,
      ⟨⟨4, 5, 50⟩, ⟨4, 13, 58⟩⟩⟩,
    ⟨"toets", "", .gate ⟨"loon < top", .binary (.order .lt) (.ref "loon" ⟨0, 4⟩)
        (.ref "top" ⟨7, 10⟩) ⟨0, 10⟩⟩ (.step 2) (.finish (some "nee")) (some 0), .step 2,
      ⟨⟨6, 5, 103⟩, ⟨6, 14, 112⟩⟩⟩,
    ⟨"recht", "", .derivation "rest" .number [⟨none, "top - loon",
        .binary (.arithmetic .sub) (.ref "top" ⟨0, 3⟩) (.ref "loon" ⟨6, 10⟩) ⟨0, 10⟩⟩],
      .finish none, ⟨⟨8, 5, 183⟩, ⟨8, 14, 192⟩⟩⟩]
  declarations :=
    [⟨"top", .constant, .number⟩, ⟨"loon", .question 0, .number⟩, ⟨"rest", .derivation 2, .number⟩]

theorem ofText_subsidyScript : Model.ofText subsidyScript = .ok subsidyModel := by
  have written : subsidyScript = String.ofList _ :=
    literal_append (literal_append (literal_append rfl rfl) rfl) rfl
  rw [Model.ofText_eq written]
  exact ok_of_toOption (by decide +kernel)

theorem integrity_of_text_subsidy :
    Model.ofText subsidyScript = .ok subsidyModel ∧
      (∃ script, Script.ofText subsidyScript = .ok script ∧ subsidyModel.Integrity script) ∧
      subsidyModel.origin? "loon" = some (.question 0) ∧ 0 < subsidyModel.steps.length := by
  obtain ⟨holds, asked, _⟩ := integrity_of_text ofText_subsidyScript
  have origin : subsidyModel.origin? "loon" = some (.question 0) := by decide
  exact ⟨ofText_subsidyScript, holds, origin, asked "loon" 0 origin⟩

end Model

end Questionnaire
