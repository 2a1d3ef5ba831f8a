import Questionnaire.Proofs.Model.Inference
import Questionnaire.Proofs.Outcome

/-!
What the checks of types accept.

Whether the types of a step are accepted depends on the types of names alone: `checkTypes_iff`. The
cases of a derivation are accepted just if each of their parts has a type that fits its place, and if
the known types of the formulas are the one that is declared, or else the first of them:
`checkCases_iff`. With text, everything agrees.
-/

namespace Questionnaire

variable {env : TypeEnv} {name : String} {c : Case} {cases rest : List Case} {t : AnswerType}
  {agreed : Option AnswerType}

/-! ### Types that are known -/

def Formula.knownType? (env : TypeEnv) (f : Formula) : Option AnswerType :=
  match f.root.type env with
  | .ok .unknown | .error _ => none
  | .ok t => some t

/-- The types of formulas that are known, in the order of the cases. -/
def knownTypes (env : TypeEnv) (cases : List Case) : List AnswerType :=
  cases.filterMap fun c => c.formula.knownType? env

theorem Formula.knownType?_eq_some {f : Formula} :
    f.knownType? env = some t ↔ f.root.type env = .ok t ∧ t ≠ .unknown := by
  unfold knownType?
  cases f.root.type env with
  | error e => simp
  | ok u => cases u <;> simp +contextual [eq_comm]

theorem firstType_eq : firstType env cases = (knownTypes env cases).head?.getD .unknown := by
  rw [knownTypes, List.head?_filterMap]
  rfl

theorem knownTypes_of_unknown (rest : List Case)
    (typed : c.formula.root.type env = .ok .unknown) :
    knownTypes env (c :: rest) = knownTypes env rest := by
  simp [knownTypes, Formula.knownType?, typed]

theorem knownTypes_of_known (rest : List Case) (typed : c.formula.root.type env = .ok t)
    (known : t ≠ .unknown) :
    knownTypes env (c :: rest) = t :: knownTypes env rest := by
  have here : c.formula.knownType? env = some t := Formula.knownType?_eq_some.mpr ⟨typed, known⟩
  simp [knownTypes, here]

theorem mem_knownTypes (listed : c ∈ cases) (typed : c.formula.root.type env = .ok t)
    (known : t ≠ .unknown) : t ∈ knownTypes env cases :=
  List.mem_filterMap.mpr ⟨c, listed, Formula.knownType?_eq_some.mpr ⟨typed, known⟩⟩

/-! ### Cases -/

/-- A case whose guard can be a condition and whose formula has a type. -/
structure Case.Checks (env : TypeEnv) (c : Case) : Prop where
  guard : ∀ g ∈ c.guard, g.root.checkCondition env = .ok ()
  formula : ∃ t, c.formula.root.type env = .ok t

/-- The type that the formulas of cases have to have: the one that is agreed on, or else the first
that is known. -/
def agreedType (env : TypeEnv) (agreed : Option AnswerType) (cases : List Case) : AnswerType :=
  agreed.getD (firstType env cases)

structure CasesFit (env : TypeEnv) (agreed : Option AnswerType) (cases : List Case) : Prop where
  checks : ∀ c ∈ cases, c.Checks env
  fit : ∀ t ∈ knownTypes env cases,
    agreedType env agreed cases = t ∨ agreedType env agreed cases = .text

theorem CasesFit.formula (fits : CasesFit env agreed cases) (listed : c ∈ cases) :
    ∃ t, c.formula.root.type env = .ok t ∧
      (t = .unknown ∨ t = agreedType env agreed cases ∨ agreedType env agreed cases = .text) := by
  obtain ⟨t, typed⟩ := (fits.checks c listed).formula
  refine ⟨t, typed, ?_⟩
  by_cases known : t = .unknown
  · exact Or.inl known
  · have fit := fits.fit t (mem_knownTypes listed typed known)
    exact Or.inr (fit.imp_left Eq.symm)

namespace TypingSite

variable {site : TypingSite}

theorem checkCondition_iff {field : ExpressionField} {f : Formula} :
    site.checkCondition field f = .ok () ↔ f.root.checkCondition site.table.get? = .ok () :=
  mapError_ok

theorem formulaType_iff {f : Formula} :
    site.formulaType f = .ok t ↔ f.root.type site.table.get? = .ok t :=
  mapError_ok

theorem checkCases_cons : site.checkCases name agreed (c :: rest) = .ok () ↔
    (∀ g ∈ c.guard, g.root.checkCondition site.table.get? = .ok ()) ∧
      ∃ t, c.formula.root.type site.table.get? = .ok t ∧
        ((t = .unknown ∧ site.checkCases name agreed rest = .ok ()) ∨
          t ≠ .unknown ∧ (agreed.getD t = t ∨ agreed.getD t = .text) ∧
            site.checkCases name (some (agreed.getD t)) rest = .ok ()) := by
  constructor
  · intro h
    unfold checkCases at h
    have guards : ∀ g ∈ c.guard, g.root.checkCondition site.table.get? = .ok () := by
      intro g member
      rw [Option.mem_def.mp member] at h
      obtain ⟨_, guarded, _⟩ := bind_ok.mp h
      exact checkCondition_iff.mp guarded
    refine ⟨guards, ?_⟩
    cases given : c.guard
    case' none => rw [given] at h
    case' some =>
      rw [given] at h
      obtain ⟨_, _, h⟩ := bind_ok.mp h
    all_goals
      obtain ⟨t, typed, h⟩ := bind_ok.mp h
      refine ⟨t, formulaType_iff.mp typed, ?_⟩
      split at h
      · exact Or.inl ⟨‹_›, h⟩
      · refine Or.inr ⟨‹_›, ?_⟩
        split at h
        · exact ⟨Or.inl rfl, h⟩
        · split at h
          · exact ⟨‹_›, h⟩
          · cases h
  · rintro ⟨guards, t, typed, fits⟩
    unfold checkCases
    cases given : c.guard
    case' some guard =>
      have guarded := guards guard (by simp [given])
      refine bind_ok.mpr ⟨(), checkCondition_iff.mpr guarded, ?_⟩
    all_goals
      refine bind_ok.mpr ⟨t, formulaType_iff.mpr typed, ?_⟩
      rcases fits with ⟨rfl, later⟩ | ⟨known, fits, later⟩
      · rw [if_pos rfl]
        exact later
      · rw [if_neg known]
        cases agreed with
        | none => exact later
        | some expected => exact (if_pos fits).trans later

theorem checkCases_iff :
    site.checkCases name agreed cases = .ok () ↔ CasesFit site.table.get? agreed cases := by
  induction cases generalizing agreed with
  | nil =>
    have nothing : CasesFit site.table.get? agreed [] :=
      ⟨List.forall_mem_nil _, List.forall_mem_nil _⟩
    exact iff_of_true rfl nothing
  | cons c rest ih =>
    rw [checkCases_cons]
    simp only [ih]
    constructor
    · rintro ⟨guards, t, typed, ⟨rfl, later⟩ | ⟨known, here, later⟩⟩
      · refine ⟨List.forall_mem_cons.mpr ⟨⟨guards, _, typed⟩, later.checks⟩, ?_⟩
        rw [agreedType, firstType_eq, knownTypes_of_unknown rest typed, ← firstType_eq]
        exact later.fit
      · refine ⟨List.forall_mem_cons.mpr ⟨⟨guards, t, typed⟩, later.checks⟩, ?_⟩
        rw [agreedType, firstType_eq, knownTypes_of_known rest typed known]
        exact List.forall_mem_cons.mpr ⟨here, later.fit⟩
    · rintro ⟨checks, fit⟩
      obtain ⟨⟨guards, t, typed⟩, later⟩ := List.forall_mem_cons.mp checks
      refine ⟨guards, t, typed, ?_⟩
      by_cases known : t = .unknown
      · subst known
        rw [agreedType, firstType_eq, knownTypes_of_unknown rest typed, ← firstType_eq] at fit
        exact Or.inl ⟨rfl, later, fit⟩
      · rw [agreedType, firstType_eq, knownTypes_of_known rest typed known] at fit
        obtain ⟨here, others⟩ := List.forall_mem_cons.mp fit
        exact Or.inr ⟨known, here, later, others⟩

end TypingSite

/-! ### Steps -/

/-- A step whose types are accepted, where `known` is the type that is declared for it. -/
def Step.Checked (env : TypeEnv) (s : Step) (known : Option AnswerType) : Prop :=
  match s.kind with
  | .gate condition .. => condition.root.checkCondition env = .ok ()
  | .derivation _ _ cases => CasesFit env known cases
  | .question .. => True

section

variable {places : Places} {table : TypeTable} {start index : Nat} {s : Step} {steps : List Step}
  {known : Option AnswerType} {declared : List (Option AnswerType)}

theorem checkTypes_cons :
    checkTypes places table start (s :: steps) (known :: declared) = .ok () ↔
      s.Checked table.get? known ∧ checkTypes places table (start + 1) steps declared = .ok () := by
  rw [checkTypes, Step.Checked]
  cases s.kind with
  | question => exact ⟨fun later => ⟨trivial, later⟩, And.right⟩
  | derivation => exact check_ok.trans (and_congr_left' TypingSite.checkCases_iff)
  | gate => exact check_ok.trans (and_congr_left' TypingSite.checkCondition_iff)

theorem checkTypes_iff : checkTypes places table start steps declared = .ok () ↔
    ∀ step ∈ steps.zip declared, step.1.Checked table.get? step.2 := by
  induction steps generalizing start declared with
  | nil => simp [checkTypes]
  | cons s rest ih =>
    cases declared with
    | nil => simp [checkTypes]
    | cons known declared => rw [checkTypes_cons, ih, List.zip_cons_cons, List.forall_mem_cons]

theorem checked_of_checkTypes (h : checkTypes places table start steps declared = .ok ())
    (found : steps[index]? = some s) (type : declared[index]? = some known) :
    s.Checked table.get? known := by
  have listed : (s, known) ∈ steps.zip declared :=
    List.mem_iff_getElem?.mpr ⟨index, List.getElem?_zip_eq_some.mpr ⟨found, type⟩⟩
  exact checkTypes_iff.mp h (s, known) listed

end

end Questionnaire
