import Questionnaire.Proofs.Model.WellFormed
import Questionnaire.Proofs.Model.Inference

/-!
The types of the names that a compiled model derives.

A derivation without a declared type should have the type of its formulas: `TypesAgree`. It does where
such derivations refer to each other without a circle, and else just if one more pass over them changes
no type: `types_agree`. In a circle the last pass may come too early, as `typesAgree_circle` shows.
-/

namespace Questionnaire

/-- The types that a script declares for its derivations, step by step. -/
def Script.declaredTypes (script : Script) : List (Option AnswerType) :=
  script.steps.map fun s => s.derivation.bind (·.type)

variable {steps : List Step} {declared : List (Option AnswerType)} {table : TypeTable}
  {name : String} {cases : List Case}

/-! ### Derivations without a declared type -/

/-- The name and the cases of a step that derives a name of no declared type. -/
def Step.untyped? (s : Step) (known : Option AnswerType) : Option (String × List Case) :=
  match s.kind, known with
  | .derivation name _ cases, none => some (name, cases)
  | _, _ => none

theorem Step.untyped?_eq_some {s : Step} {known : Option AnswerType} :
    s.untyped? known = some (name, cases) ↔
      known = none ∧ ∃ type, s.kind = .derivation name type cases := by
  unfold untyped?
  cases s.kind <;> cases known <;> simp

@[simp] theorem Step.typed_untyped? (s : Step) (known : Option AnswerType) :
    (s.typed table).untyped? known = s.untyped? known := by
  unfold typed
  split
  · rename_i kind
    cases known <;> simp [untyped?, kind]
  · rfl

theorem untypedDerivations_eq : untypedDerivations steps declared =
    (steps.zip declared).filterMap fun step => step.1.untyped? step.2 := by
  induction steps generalizing declared with
  | nil => rfl
  | cons s rest ih =>
    cases declared with
    | nil => rfl
    | cons known declared =>
      cases kind : s.kind <;> cases known <;>
        simp [untypedDerivations, Step.untyped?, kind, ih]

theorem mem_untypedDerivations : (name, cases) ∈ untypedDerivations steps declared ↔
    ∃ (index : Nat) (s : Step) (type : AnswerType), steps[index]? = some s ∧
      declared[index]? = some none ∧ s.kind = .derivation name type cases := by
  rw [untypedDerivations_eq, List.mem_filterMap]
  simp only [List.mem_iff_getElem?, List.getElem?_zip_eq_some, Step.untyped?_eq_some, Prod.exists]
  constructor
  · rintro ⟨s, _, ⟨index, found, untyped⟩, rfl, type, kind⟩
    exact ⟨index, s, type, found, untyped, kind⟩
  · rintro ⟨index, s, type, found, untyped, kind⟩
    exact ⟨s, none, ⟨index, found, untyped⟩, rfl, type, kind⟩

theorem untypedDerivations_sublist {start : Nat} :
    (Derivations.names (untypedDerivations steps declared)).Sublist
      ((declarationsOf start steps).map (·.name)) := by
  induction steps generalizing declared start with
  | nil => exact List.nil_sublist _
  | cons s rest ih =>
    cases declared with
    | nil => exact List.nil_sublist _
    | cons known declared =>
      have later : (Derivations.names (untypedDerivations rest declared)).Sublist
          ((declarationsOf (start + 1) rest).map (·.name)) := ih
      rw [declarationsOf, List.map_append]
      cases here : s.untyped? known with
      | none =>
        have same : untypedDerivations (s :: rest) (known :: declared) =
            untypedDerivations rest declared := by
          simp [untypedDerivations_eq, here]
        exact same ▸ later.trans (List.sublist_append_right _ _)
      | some derivation =>
        obtain ⟨_, _, kind⟩ := Step.untyped?_eq_some.mp here
        have listed : untypedDerivations (s :: rest) (known :: declared) =
            derivation :: untypedDerivations rest declared := by
          simp [untypedDerivations_eq, here]
        simpa [listed, Step.declarations, kind, Derivations.names] using later

theorem Step.typed_derivation {s : Step} {type : AnswerType} :
    (s.typed table).kind = .derivation name type cases ↔
      ∃ before, s.kind = .derivation name before cases ∧
        type = (table.get? name).getD .unknown := by
  unfold typed
  split
  · rename_i kind
    simp only [kind, StepKind.derivation.injEq]
    constructor
    · rintro ⟨rfl, rfl, rfl⟩
      exact ⟨_, ⟨rfl, rfl, rfl⟩, rfl⟩
    · rintro ⟨_, ⟨rfl, rfl, rfl⟩, rfl⟩
      exact ⟨rfl, rfl, rfl⟩
  · rename_i other
    constructor
    · intro kind
      exact absurd kind (other name type cases)
    · rintro ⟨before, kind, _⟩
      exact absurd kind (other name before cases)

theorem untypedDerivations_typed :
    untypedDerivations (steps.map (·.typed table)) declared = untypedDerivations steps declared := by
  simp only [untypedDerivations_eq, List.zip_map_left, List.filterMap_map, Function.comp_def,
    Prod.map, Step.typed_untyped?, id]

/-- The types of all other names stay as they are declared. -/
theorem get?_inferTypes {declarations : List Declaration}
    (free : name ∉ Derivations.names (untypedDerivations steps declared)) :
    (inferTypes steps declared declarations).get? name =
      (declarations.find? (·.name == name)).map (·.type) := by
  rw [inferTypes, TypeTable.get?_passes_of_not_mem free, TypeTable.get?_ofDeclarations]

section

variable {places : Places} {constants : ParameterStore} {declarations : List Declaration}

theorem untyped_names_nodup (h : declare places constants steps = .ok declarations) :
    (Derivations.names (untypedDerivations steps declared)).Nodup := by
  obtain ⟨same, distinct⟩ := declare_ok.mp h
  rw [same, List.map_append, List.nodup_append] at distinct
  exact distinct.2.1.sublist untypedDerivations_sublist

theorem untyped_declared (h : declare places constants steps = .ok declarations)
    (member : name ∈ Derivations.names (untypedDerivations steps declared)) :
    ∃ d ∈ declarations, d.name = name ∧ ∃ index, d.origin = .derivation index := by
  obtain ⟨⟨_, cases⟩, listed, rfl⟩ := List.mem_map.mp member
  obtain ⟨index, s, type, found, _, kind⟩ := mem_untypedDerivations.mp listed
  obtain ⟨d, declared, named, made⟩ := mem_declarations.mpr
    (Or.inr ⟨rfl, Step.derivedName?_eq_some.mpr ⟨type, cases, kind⟩⟩)
  refine ⟨d, ?_, named, index, made⟩
  rw [(declare_ok.mp h).1]
  exact List.mem_append_right _
    (mem_declarationsOf.mpr ⟨index, s, found, by rwa [Nat.zero_add]⟩)

theorem untyped_present (h : declare places constants steps = .ok declarations)
    (member : name ∈ Derivations.names (untypedDerivations steps declared)) :
    ((TypeTable.ofDeclarations declarations).get? name).isSome := by
  obtain ⟨d, listed, named, _⟩ := untyped_declared h member
  rw [TypeTable.get?_ofDeclarations, (find?_keyed (declare_ok.mp h).2).mpr ⟨listed, named⟩]
  rfl

end

namespace Model

def types (m : Model) : TypeTable := .ofDeclarations m.declarations

/-- The derivations of a model whose types its script does not declare. -/
def untyped (m : Model) (script : Script) : Derivations :=
  untypedDerivations m.steps script.declaredTypes

/-- A derivation without a declared type has the type of its first formula with a known one, in the
types of the model. -/
def TypesAgree (m : Model) (script : Script) : Prop :=
  ∀ (index : Nat) (s : Step) (name : String) (type : AnswerType) (cases : List Case),
    m.steps[index]? = some s → script.declaredTypes[index]? = some none →
    s.kind = .derivation name type cases → type = firstType m.types.get? cases

namespace CompiledFrom

variable {m : Model} {source : Source} {script : Script} {constants : ParameterStore}
  {declarations : List Declaration}

/-! ### The table that was inferred -/

theorem model_types (stages : CompiledFrom source script steps constants declarations m) :
    m.types.get? name = (declarations.find? (·.name == name)).map fun d =>
      (d.typed (inferTypes steps script.declaredTypes declarations)).type := by
  rw [Model.types, TypeTable.get?_ofDeclarations, stages.model, List.find?_map, Option.map_map]
  simp only [Function.comp_def, Declaration.typed_name]
  rfl

/-- A model declares the types that were inferred. -/
theorem types_get? (stages : CompiledFrom source script steps constants declarations m) :
    m.types.get? = (inferTypes steps script.declaredTypes declarations).get? := by
  have distinct := (declare_ok.mp stages.declared).2
  funext name
  have before : (TypeTable.ofDeclarations declarations).get? name =
      (declarations.find? (·.name == name)).map (·.type) := TypeTable.get?_ofDeclarations
  rw [stages.model_types]
  cases found : declarations.find? (·.name == name) with
  | none =>
    rw [get?_inferTypes, found]
    · rfl
    · intro member
      have present := untyped_present stages.declared member
      simp [before, found] at present
  | some d =>
    have named : d.name = name := by simpa using List.find?_some found
    cases origin : d.origin with
    | derivation index =>
      have present : ((inferTypes steps script.declaredTypes declarations).get? name).isSome :=
        TypeTable.isSome_get?_passes (by simp [before, found])
      obtain ⟨type, inferred⟩ := Option.isSome_iff_exists.mp present
      simp [Declaration.typed, origin, named, inferred]
    | _ =>
      rw [get?_inferTypes, found]
      · simp [Declaration.typed, origin]
      · intro member
        obtain ⟨other, listed, same, index, derived⟩ := untyped_declared stages.declared member
        have equal := (find?_keyed distinct).mpr ⟨listed, same⟩
        cases found.symm.trans equal
        cases origin.symm.trans derived

theorem types_declared (stages : CompiledFrom source script steps constants declarations m)
    {d : Declaration} (listed : d ∈ declarations) : m.types.get? d.name =
      some (d.typed (inferTypes steps script.declaredTypes declarations)).type := by
  rw [stages.model_types, (find?_keyed (declare_ok.mp stages.declared).2).mpr ⟨listed, rfl⟩]
  rfl

theorem types_of_mem (stages : CompiledFrom source script steps constants declarations m)
    {d : Declaration} (listed : d ∈ m.declarations) : m.types.get? d.name = some d.type := by
  rw [stages.model] at listed
  obtain ⟨before, declared, rfl⟩ := List.mem_map.mp listed
  rw [Declaration.typed_name]
  exact stages.types_declared declared

theorem types_derived (stages : CompiledFrom source script steps constants declarations m)
    {index : Nat} {s : Step} {type : AnswerType} (found : m.steps[index]? = some s)
    (kind : s.kind = .derivation name type cases) : m.types.get? name = some type := by
  obtain ⟨built, there, rfl⟩ := stages.step_eq_some.mp found
  obtain ⟨_, before, rfl⟩ := Step.typed_derivation.mp kind
  have derived := Step.derivedName?_eq_some.mpr ⟨_, _, before⟩
  obtain ⟨d, member, named, origin⟩ := mem_declarations.mpr (Or.inr ⟨rfl, derived⟩)
  have listed : d ∈ declarations := by
    rw [(declare_ok.mp stages.declared).1]
    exact List.mem_append_right _
      (mem_declarationsOf.mpr ⟨index, built, there, by rwa [Nat.zero_add]⟩)
  rw [← named, stages.types_declared listed]
  simp only [Declaration.typed, origin]
  rfl

theorem untyped_eq (stages : CompiledFrom source script steps constants declarations m) :
    m.untyped script = untypedDerivations steps script.declaredTypes := by
  rw [untyped, stages.model]
  exact untypedDerivations_typed

/-- The derivations agree with their formulas just if the inferred table gives them the types that
these have in it. -/
theorem typesAgree_iff (stages : CompiledFrom source script steps constants declarations m) :
    m.TypesAgree script ↔ ∀ d ∈ m.untyped script, m.types.Agrees d.1 d.2 := by
  constructor
  · rintro agree ⟨name, cases⟩ member
    obtain ⟨index, s, type, found, untyped, kind⟩ := mem_untypedDerivations.mp member
    exact (stages.types_derived found kind).trans
      (congrArg some (agree index s name type cases found untyped kind))
  · intro agree index s name type cases found untyped kind
    have agrees := agree (name, cases)
      (mem_untypedDerivations.mpr ⟨index, s, type, found, untyped, kind⟩)
    exact Option.some.inj ((stages.types_derived found kind).symm.trans agrees)

/-- Without circles the passes go on until the types agree. -/
theorem typesAgree_of_acyclic
    (stages : CompiledFrom source script steps constants declarations m)
    (acyclic : (m.untyped script).Acyclic) : m.TypesAgree script := by
  rw [stages.typesAgree_iff, stages.untyped_eq] at *
  unfold TypeTable.Agrees
  rw [stages.types_get?]
  exact TypeTable.passes_agree_of_acyclic (untyped_names_nodup stages.declared) acyclic
    fun _ => untyped_present stages.declared

end CompiledFrom

variable {text : String} {script : Script} {m : Model}

theorem compiledFrom_of_text (read : Script.ofText text = .ok script)
    (compiled : Model.ofText text = .ok m) : ∃ steps constants declarations,
      CompiledFrom (.ofText text) script steps constants declarations m := by
  unfold Model.ofText at compiled
  rw [read] at compiled
  exact ofScript_ok compiled

/-- The types of derivations agree with their formulas just if one more pass over them changes no
type, and they do wherever such derivations refer to each other without a circle. -/
theorem types_agree (read : Script.ofText text = .ok script)
    (compiled : Model.ofText text = .ok m) :
    (m.TypesAgree script ↔ (m.types.pass (m.untyped script)).get? = m.types.get?) ∧
      ((m.untyped script).Acyclic → m.TypesAgree script) := by
  obtain ⟨steps, constants, declarations, stages⟩ := compiledFrom_of_text read compiled
  refine ⟨?_, stages.typesAgree_of_acyclic⟩
  rw [stages.typesAgree_iff]
  refine (TypeTable.pass_unchanged_iff ?_ ?_).symm
  · rw [stages.untyped_eq]
    exact untyped_names_nodup stages.declared
  · intro name member
    obtain ⟨⟨_, cases⟩, listed, rfl⟩ := List.mem_map.mp member
    obtain ⟨index, s, type, found, _, kind⟩ := mem_untypedDerivations.mp listed
    rw [stages.types_derived found kind]
    rfl

/-- A script that derives a half from a share that a later step derives. -/
def shareScript : String :=
  "steps:\n- id: vraag\n  ask: [\x7bname: n, type: number\x7d]\n  next: eerst\n" ++
    "- id: dan\n  derive: \x7bname: helft, formula: deel / 2\x7d\n  next: end\n" ++
    "- id: eerst\n  derive: \x7bname: deel, formula: 1 / n\x7d\n  next: dan\n"

def digit (n : Nat) : Decimal := (Decimal.ofInt? n).getD .zero

def halfCase : Case := ⟨none, "deel / 2", .binary (.arithmetic .div) (.ref "deel" ⟨0, 4⟩)
  (.literal (.number (digit 2)) ⟨7, 8⟩) ⟨0, 8⟩⟩

def shareCase : Case := ⟨none, "1 / n", .binary (.arithmetic .div)
  (.literal (.number (digit 1)) ⟨0, 1⟩) (.ref "n" ⟨4, 5⟩) ⟨0, 5⟩⟩

def shareSteps : List Step :=
  [⟨"vraag", "", .question [⟨"n", .number, .number, [], ""⟩] .all, .step 2,
      ⟨⟨2, 3, 9⟩, ⟨2, 12, 18⟩⟩⟩,
    ⟨"dan", "", .derivation "helft" .number [halfCase], .finish none, ⟨⟨5, 3, 68⟩, ⟨5, 10, 75⟩⟩⟩,
    ⟨"eerst", "", .derivation "deel" .number [shareCase], .step 1,
      ⟨⟨8, 3, 133⟩, ⟨8, 12, 142⟩⟩⟩]

def shareModel : Model :=
  ⟨[], .empty, shareSteps, [⟨"n", .question 0, .number⟩, ⟨"helft", .derivation 1, .number⟩,
    ⟨"deel", .derivation 2, .number⟩]⟩

theorem ofText_shareScript : ∃ script, Script.ofText shareScript = .ok script ∧
    Model.ofText shareScript = .ok shareModel ∧ (shareModel.untyped script).Acyclic := by
  have written : shareScript = String.ofList _ :=
    literal_append (literal_append rfl rfl) rfl
  have both : (Script.ofText shareScript).toOption.map (·.declaredTypes) =
      some [none, none, none] ∧ (Model.ofText shareScript).toOption = some shareModel := by
    rw [Script.ofText_eq written, Model.ofText_eq written]
    decide +kernel
  obtain ⟨script, read, declared⟩ := ok_of_map_toOption both.1
  refine ⟨script, read, ok_of_toOption both.2, ?_⟩
  rw [untyped, declared]
  exact Derivations.acyclic_of_rank (fun name => if name = "helft" then 1 else 0) (by decide)

theorem types_agree_shares : ∃ script, Script.ofText shareScript = .ok script ∧
    Model.ofText shareScript = .ok shareModel ∧ (shareModel.untyped script).Acyclic ∧
    shareModel.TypesAgree script := by
  obtain ⟨script, read, compiled, acyclic⟩ := ofText_shareScript
  obtain ⟨_, agree⟩ := types_agree read compiled
  exact ⟨script, read, compiled, acyclic, agree acyclic⟩

/-! ### A circle -/

/-- A script with a derivation that refers to itself. Its type is at first unknown, then that of
numbers, of moments and at last of time spans, where it would stay. -/
def circleScript : String :=
  "steps:\n- id: v\n  ask: [\x7bname: t, type: date\x7d, \x7bname: d, type: duration\x7d, " ++
    "\x7bname: x\x7d, \x7bname: b, type: bool\x7d]\n- id: w\n  derive:\n    name: a\n" ++
    "    cases: [\x7bwhen: b, formula: t + d * (a + x)\x7d, \x7bformula: 2 * (a - a)\x7d]\n"

def circleCases : List Case :=
  [⟨some ⟨"b", .ref "b" ⟨0, 1⟩⟩, "t + d * (a + x)",
      .binary (.arithmetic .add) (.ref "t" ⟨0, 1⟩) (.binary (.arithmetic .mul) (.ref "d" ⟨4, 5⟩)
        (.binary (.arithmetic .add) (.ref "a" ⟨9, 10⟩) (.ref "x" ⟨13, 14⟩) ⟨9, 14⟩) ⟨4, 14⟩)
        ⟨0, 14⟩⟩,
    ⟨none, "2 * (a - a)", .binary (.arithmetic .mul)
      (.literal (.number (digit 2)) ⟨0, 1⟩)
      (.binary (.arithmetic .sub) (.ref "a" ⟨5, 6⟩) (.ref "a" ⟨9, 10⟩) ⟨5, 10⟩) ⟨0, 10⟩⟩]

def circleSteps : List Step :=
  [⟨"v", "", .question [⟨"t", .moment, .moment, [], ""⟩, ⟨"d", .timeSpan, .timeSpan, [], ""⟩,
      ⟨"x", .unknown, .unknown, [], ""⟩, ⟨"b", .boolean, .boolean, [], ""⟩] .all, .step 1,
      ⟨⟨2, 3, 9⟩, ⟨2, 8, 14⟩⟩⟩,
    ⟨"w", "", .derivation "a" .moment circleCases, .finish none, ⟨⟨4, 3, 109⟩, ⟨4, 8, 114⟩⟩⟩]

def circleModel : Model :=
  ⟨[], .empty, circleSteps, [⟨"t", .question 0, .moment⟩, ⟨"d", .question 0, .timeSpan⟩,
    ⟨"x", .question 0, .unknown⟩, ⟨"b", .question 0, .boolean⟩, ⟨"a", .derivation 1, .moment⟩]⟩

/-- The passes stop while the derivation is a moment, but its formulas are time spans then. -/
theorem typesAgree_circle : ∃ script, Script.ofText circleScript = .ok script ∧
    Model.ofText circleScript = .ok circleModel ∧
    circleModel.types.get? "a" = some .moment ∧
    firstType circleModel.types.get? circleCases = .timeSpan ∧ ¬circleModel.TypesAgree script := by
  have written : circleScript = String.ofList _ :=
    literal_append (literal_append rfl rfl) rfl
  have both : (Script.ofText circleScript).toOption.map (·.declaredTypes) = some [none, none] ∧
      (Model.ofText circleScript).toOption = some circleModel := by
    rw [Script.ofText_eq written, Model.ofText_eq written]
    decide +kernel
  obtain ⟨script, read, declared⟩ := ok_of_map_toOption both.1
  have spans : firstType circleModel.types.get? circleCases = .timeSpan := by decide
  refine ⟨script, read, ok_of_toOption both.2, rfl, spans, ?_⟩
  intro agree
  have same := agree 1 _ "a" .moment circleCases rfl (by rw [declared]; rfl) rfl
  exact absurd (same.trans spans) (by decide)

end Model

end Questionnaire
