import Questionnaire.Proofs.Model.Checks
import Questionnaire.Proofs.Model.DerivedTypes

/-!
Cases that agree on a type.

The formulas of a derivation agree if those of them whose types are known have one type. Where no type
is declared, the first known one is taken for the type of all, and nothing is refused once that is the
type of texts. So an order of the cases is accepted just if the formulas agree or a text comes first in
it, and all orders are accepted just if they agree: `formulas_agree_iff`.
-/

namespace Questionnaire

/-- All known types of the formulas are the same. -/
def FormulasAgree (env : TypeEnv) (cases : List Case) : Prop :=
  ∀ t ∈ knownTypes env cases, ∀ u ∈ knownTypes env cases, t = u

variable {env : TypeEnv} {cases order : List Case} {t : AnswerType}

theorem formulasAgree_perm (reordered : order.Perm cases) :
    FormulasAgree env order ↔ FormulasAgree env cases := by
  have same (t : AnswerType) : t ∈ knownTypes env order ↔ t ∈ knownTypes env cases :=
    (reordered.filterMap _).mem_iff
  simp only [FormulasAgree, same]

theorem firstType_mem (known : t ∈ knownTypes env cases) :
    firstType env cases ∈ knownTypes env cases := by
  rw [firstType_eq]
  cases types : knownTypes env cases with
  | nil => simp [types] at known
  | cons first others => exact List.mem_cons_self

theorem casesFit_none_iff : CasesFit env none cases ↔
    (∀ c ∈ cases, c.Checks env) ∧ (FormulasAgree env cases ∨ firstType env cases = .text) := by
  constructor
  · intro fits
    refine ⟨fits.checks, ?_⟩
    by_cases text : firstType env cases = .text
    · exact Or.inr text
    · have first : ∀ t ∈ knownTypes env cases, firstType env cases = t := by
        intro t known
        exact (fits.fit t known).resolve_right text
      exact Or.inl fun t here u there => (first t here).symm.trans (first u there)
  · rintro ⟨checks, agree⟩
    refine ⟨checks, fun t known => ?_⟩
    exact agree.imp_left fun agree => agree _ (firstType_mem known) t known

/-- Any known type comes first in some order. -/
theorem exists_perm_firstType (known : t ∈ knownTypes env cases) :
    ∃ order, order.Perm cases ∧ firstType env order = t := by
  obtain ⟨c, listed, type⟩ := List.mem_filterMap.mp known
  obtain ⟨typed, concrete⟩ := Formula.knownType?_eq_some.mp type
  refine ⟨c :: cases.erase c, (List.perm_cons_erase listed).symm, ?_⟩
  rw [firstType_eq, knownTypes_of_known _ typed concrete]
  rfl

namespace Model

variable {m : Model} {script : Script} {text name : String} {index : Nat} {s : Step}
  {type : AnswerType}

/-- The cases pass the check of types as those of a derivation without a declared type. -/
def Admits (m : Model) (name : String) (cases : List Case) : Prop :=
  ∀ (places : Places) (index : Nat) (id : String),
    TypingSite.checkCases ⟨places, index, id, m.types⟩ name none cases = .ok ()

theorem admits_iff : m.Admits name cases ↔ CasesFit m.types.get? none cases := by
  constructor
  · intro accepted
    exact TypingSite.checkCases_iff.mp (accepted default 0 "")
  · intro fits places index id
    exact TypingSite.checkCases_iff.mpr fits

theorem CompiledFrom.admits {source : Source} {steps : List Step} {constants : ParameterStore}
    {declarations : List Declaration}
    (stages : CompiledFrom source script steps constants declarations m)
    (found : m.steps[index]? = some s) (untyped : script.declaredTypes[index]? = some none)
    (kind : s.kind = .derivation name type cases) : m.Admits name cases := by
  obtain ⟨built, there, rfl⟩ := stages.step_eq_some.mp found
  obtain ⟨before, builtKind, -⟩ := Step.typed_derivation.mp kind
  have checked := checked_of_checkTypes stages.types there untyped
  rw [Step.Checked, builtKind] at checked
  rw [admits_iff, stages.types_get?]
  exact checked

/-- In a script that compiles, the formulas of a derivation without a declared type agree, or the first
of them with a known type is a text. They agree just if their order does not matter. -/
theorem formulas_agree_iff (read : Script.ofText text = .ok script)
    (compiled : Model.ofText text = .ok m) (found : m.steps[index]? = some s)
    (untyped : script.declaredTypes[index]? = some none)
    (kind : s.kind = .derivation name type cases) :
    (FormulasAgree m.types.get? cases ∨ firstType m.types.get? cases = .text) ∧
      (∀ order, order.Perm cases → (m.Admits name order ↔
        FormulasAgree m.types.get? cases ∨ firstType m.types.get? order = .text)) ∧
      (FormulasAgree m.types.get? cases ↔ ∀ order, order.Perm cases → m.Admits name order) := by
  obtain ⟨steps, constants, declarations, stages⟩ := compiledFrom_of_text read compiled
  obtain ⟨checks, here⟩ := casesFit_none_iff.mp (admits_iff.mp (stages.admits found untyped kind))
  have accepted (order : List Case) (reordered : order.Perm cases) : m.Admits name order ↔
      FormulasAgree m.types.get? cases ∨ firstType m.types.get? order = .text := by
    have parts : ∀ c ∈ order, c.Checks m.types.get? := by
      intro c listed
      exact checks c (reordered.mem_iff.mp listed)
    rw [admits_iff, casesFit_none_iff, formulasAgree_perm reordered, and_iff_right parts]
  refine ⟨here, accepted, ?_, ?_⟩
  · intro agree order reordered
    exact (accepted order reordered).mpr (Or.inl agree)
  · intro all
    -- A known type other than that of texts, put first, leaves agreement as the only way.
    have agree_of {t : AnswerType} (known : t ∈ knownTypes m.types.get? cases) (other : t ≠ .text) :
        FormulasAgree m.types.get? cases := by
      obtain ⟨order, reordered, first⟩ := exists_perm_firstType known
      have either := (accepted order reordered).mp (all order reordered)
      exact either.resolve_right (first ▸ other)
    intro t knownT u knownU
    by_cases textT : t = .text
    · by_cases textU : u = .text
      · exact textT.trans textU.symm
      · exact agree_of knownU textU t knownT u knownU
    · exact agree_of knownT textT t knownT u knownU

/-! ### A text that comes first -/

/-- A script with two derivations. The formulas of the first one are a number and an answer of unknown
type, those of the second one a text and a number. -/
def mixedScript : String :=
  "steps:\n- id: v\n  ask: [\x7bname: b, type: bool\x7d, \x7bname: t, type: text\x7d, \x7bname: x\x7d]\n" ++
    "- id: w\n  derive:\n    name: a\n    cases: [\x7bwhen: b, formula: 1\x7d, \x7bformula: x\x7d]\n" ++
    "- id: u\n  derive:\n    name: c\n    cases: [\x7bwhen: b, formula: t\x7d, \x7bformula: 1\x7d]\n"

def oneFormula : Formula := ⟨"1", .literal (.number (digit 1)) ⟨0, 1⟩⟩

def letterFormula (name : String) : Formula := ⟨name, .ref name ⟨0, 1⟩⟩

def openCases : List Case :=
  [⟨some (letterFormula "b"), oneFormula⟩, ⟨none, letterFormula "x"⟩]

def mixedCases : List Case :=
  [⟨some (letterFormula "b"), letterFormula "t"⟩, ⟨none, oneFormula⟩]

def mixedSteps : List Step :=
  [⟨"v", "", .question [⟨"b", .boolean, .boolean, [], ""⟩, ⟨"t", .text, .text, [], ""⟩,
      ⟨"x", .unknown, .unknown, [], ""⟩] .all, .step 1, ⟨⟨2, 3, 9⟩, ⟨2, 8, 14⟩⟩⟩,
    ⟨"w", "", .derivation "a" .number openCases, .step 2, ⟨⟨4, 3, 82⟩, ⟨4, 8, 87⟩⟩⟩,
    ⟨"u", "", .derivation "c" .text mixedCases, .finish none, ⟨⟨8, 3, 161⟩, ⟨8, 8, 166⟩⟩⟩]

def mixedModel : Model :=
  ⟨[], .empty, mixedSteps, [⟨"b", .question 0, .boolean⟩, ⟨"t", .question 0, .text⟩,
    ⟨"x", .question 0, .unknown⟩, ⟨"a", .derivation 1, .number⟩, ⟨"c", .derivation 2, .text⟩]⟩

theorem ofText_mixedScript : ∃ script, Script.ofText mixedScript = .ok script ∧
    Model.ofText mixedScript = .ok mixedModel ∧ script.declaredTypes = [none, none, none] := by
  have written : mixedScript = String.ofList _ :=
    literal_append (literal_append rfl rfl) rfl
  have both : (Script.ofText mixedScript).toOption.map (·.declaredTypes) =
      some [none, none, none] ∧ (Model.ofText mixedScript).toOption = some mixedModel := by
    rw [Script.ofText_eq written, Model.ofText_eq written]
    decide +kernel
  obtain ⟨script, read, declared⟩ := ok_of_map_toOption both.1
  exact ⟨script, read, ok_of_toOption both.2, declared⟩

/-- An unknown type agrees with every other one, so the cases may be exchanged. -/
theorem formulas_agree_open : ∃ script, Script.ofText mixedScript = .ok script ∧
    Model.ofText mixedScript = .ok mixedModel ∧ script.declaredTypes[1]? = some none ∧
    FormulasAgree mixedModel.types.get? openCases ∧ mixedModel.Admits "a" openCases.reverse := by
  obtain ⟨script, read, compiled, declared⟩ := ofText_mixedScript
  have found : mixedModel.steps[1]? = some (mixedSteps.get ⟨1, by decide⟩) := rfl
  have untyped : script.declaredTypes[1]? = some none := by rw [declared]; rfl
  have kind : (mixedSteps.get ⟨1, by decide⟩).kind = .derivation "a" .number openCases := rfl
  obtain ⟨here, -, agree⟩ := formulas_agree_iff read compiled found untyped kind
  have number : firstType mixedModel.types.get? openCases ≠ .text := by decide
  have agrees := here.resolve_right number
  exact ⟨script, read, compiled, untyped, agrees, agree.mp agrees _ (List.reverse_perm _)⟩

/-- The cases of the second derivation are accepted, although they are a text and a number. They are
refused in the other order. -/
theorem text_hides_number : ∃ script, Script.ofText mixedScript = .ok script ∧
    Model.ofText mixedScript = .ok mixedModel ∧ script.declaredTypes[2]? = some none ∧
    (mixedModel.kind? 2 = some (.derivation "c" .text mixedCases)) ∧
    knownTypes mixedModel.types.get? mixedCases = [.text, .number] ∧
    ¬FormulasAgree mixedModel.types.get? mixedCases ∧ mixedModel.Admits "c" mixedCases ∧
    ¬mixedModel.Admits "c" mixedCases.reverse := by
  obtain ⟨script, read, compiled, declared⟩ := ofText_mixedScript
  have types : knownTypes mixedModel.types.get? mixedCases = [.text, .number] := by decide
  have disagree : ¬FormulasAgree mixedModel.types.get? mixedCases := by
    rw [FormulasAgree, types]
    decide
  have found : mixedModel.steps[2]? = some (mixedSteps.get ⟨2, by decide⟩) := rfl
  have untyped : script.declaredTypes[2]? = some none := by rw [declared]; rfl
  have kind : (mixedSteps.get ⟨2, by decide⟩).kind = .derivation "c" .text mixedCases := rfl
  obtain ⟨steps, constants, declarations, stages⟩ := compiledFrom_of_text read compiled
  refine ⟨script, read, compiled, untyped, rfl, types, disagree,
    stages.admits found untyped kind, ?_⟩
  intro accepted
  obtain ⟨-, agree | text⟩ := casesFit_none_iff.mp (admits_iff.mp accepted)
  · exact disagree ((formulasAgree_perm (List.reverse_perm _)).mp agree)
  · have number : firstType mixedModel.types.get? mixedCases.reverse = .number := by decide
    exact absurd (text.symm.trans number) (by decide)

end Model

end Questionnaire
