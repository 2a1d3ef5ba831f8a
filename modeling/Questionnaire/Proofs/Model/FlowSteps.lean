import Questionnaire.Proofs.Model.Checks
import Questionnaire.Proofs.Model.Compile
import Questionnaire.Proofs.Model.Ids
import Questionnaire.Proofs.Script.FlowSteps

/-!
The model of a script of choices.

Such a script compiles whenever its ids are told apart, are not blank and do not stand for a target:
`ofScript_flowSteps`. Where its steps are is left to the places that they are looked up at.
-/

namespace Questionnaire

variable {places : Places} {n index total : Nat} {id : String} {ids all taken : List String}

theorem checkIds_of_proper (distinct : ids.Nodup) (free : ∀ id ∈ ids, id ∉ taken)
    (proper : ∀ id ∈ ids, Text.isBlankText id = false ∧ id ∉ reservedIds) :
    checkIds places index taken ids = .ok () := by
  induction ids generalizing index taken with
  | nil => rfl
  | cons id ids ih =>
    obtain ⟨other, distinct⟩ := List.nodup_cons.mp distinct
    obtain ⟨fresh, free⟩ := List.forall_mem_cons.mp free
    obtain ⟨⟨filled, unreserved⟩, proper⟩ := List.forall_mem_cons.mp proper
    unfold checkIds
    simp only [filled, List.contains_eq_mem, unreserved, fresh, decide_false, Bool.false_eq_true, ↓reduceIte]
    refine ih distinct (fun later member => ?_) proper
    rw [List.mem_cons, not_or]
    exact ⟨fun same => other (same ▸ member), free later member⟩

/-- The steps of such a model, `total` of them; `index` is the number of the first one. -/
def flowBuilt (places : Places) (total : Nat) : (index : Nat) → List String → List Step
  | _, [] => []
  | index, id :: ids =>
    ⟨id, "", .question [⟨flowOption (index + 1), .boolean, .boolean, [], ""⟩] .anyOf,
      if index + 1 < total then .step (index + 1) else .finish none, places.line index⟩ ::
      flowBuilt places total (index + 1) ids

theorem flowOption_not_blank (n : Nat) : Text.isBlankText (flowOption n) = false := by
  unfold Text.isBlankText
  rw [toList_flowOption]
  rfl

theorem buildSteps_flowSteps :
    buildSteps places all index (flowSteps (index + 1) ids) = .ok (flowBuilt places all.length index ids) := by
  induction ids generalizing index with
  | nil => rfl
  | cons id ids ih =>
    have label (site : StepSite) (cause : ScriptCause) :
        site.label cause (.string (flowOption (index + 1))) = .ok (flowOption (index + 1)) := by
      simp [StepSite.label, Yaml.Value.scalarText?, flowOption_not_blank]
    have built : StepSite.build ⟨places, all, index, flowStep (index + 1) id⟩ =
        .ok ⟨id, "", .question [⟨flowOption (index + 1), .boolean, .boolean, [], ""⟩] .anyOf,
          if index + 1 < all.length then .step (index + 1) else .finish none, places.line index⟩ := by
      simp [StepSite.build, StepSite.kind, flowStep, StepSite.choice, label, StepSite.target, StepSite.following,
        StepSite.description, Bind.bind, Except.bind, pure, Except.pure]
    unfold flowSteps buildSteps
    rw [built, ih]
    rfl

theorem flowBuilt_kind : ∀ s ∈ flowBuilt places total index ids, s.isQuestion = true := by
  induction ids generalizing index with
  | nil => exact List.forall_mem_nil _
  | cons id ids ih => exact List.forall_mem_cons.mpr ⟨rfl, ih⟩

theorem declarationsOf_flowBuilt :
    (declarationsOf n (flowBuilt places total index ids)).map (·.name) =
      (List.range' (index + 1) ids.length).map flowOption := by
  induction ids generalizing n index with
  | nil => rfl
  | cons id ids ih =>
    rw [flowBuilt, declarationsOf, List.map_append, ih, List.length_cons, List.range'_succ, List.map_cons]
    rfl

theorem flowOption_injective : Function.Injective flowOption := by
  intro a b same
  have chars := congrArg String.toList same
  rw [toList_flowOption, toList_flowOption] at chars
  have digits := congrArg (Nat.ofDigitChars 10 · 0) (List.cons.inj chars).2
  simpa using digits

theorem checkFallbacks_of_questions {steps others : List Step}
    (questions : ∀ s ∈ others, s.isQuestion = true) :
    checkFallbacks places steps index others = .ok () := by
  induction others generalizing index with
  | nil => rfl
  | cons s others ih =>
    obtain ⟨here, later⟩ := List.forall_mem_cons.mp questions
    unfold checkFallbacks
    unfold Step.isQuestion at here
    split at here
    · rename_i kind
      simp only [kind]
      exact ih later
    · cases here

theorem Step.typed_of_question {s : Step} {table : TypeTable} (question : s.isQuestion = true) :
    s.typed table = s := by
  unfold isQuestion at question
  split at question
  · rename_i kind
    unfold typed
    simp only [kind]
  · cases question

theorem Step.checked_of_question {s : Step} {env : String → Option AnswerType} {known : Option AnswerType}
    (question : s.isQuestion = true) : s.Checked env known := by
  unfold isQuestion at question
  split at question
  · rename_i kind
    unfold Checked
    simp only [kind]
  · cases question

theorem ids_flowSteps : (flowSteps n ids).map (·.id) = ids := by
  induction ids generalizing n with
  | nil => rfl
  | cons id ids ih => exact congrArg (id :: ·) ih

theorem Model.CompiledFrom.ofScript {source : Source} {script : Script} {steps : List Step}
    {constants : ParameterStore} {declarations : List Declaration} {m : Model}
    (stages : CompiledFrom source script steps constants declarations m) :
    Model.ofScript source script = .ok m := by
  unfold Model.ofScript
  rw [if_neg (by simpa using stages.filled)]
  refine bind_ok.mpr ⟨(), stages.ids, bind_ok.mpr ⟨steps, stages.built, ?_⟩⟩
  refine bind_ok.mpr ⟨constants, stages.read, bind_ok.mpr ⟨declarations, stages.declared, ?_⟩⟩
  exact bind_ok.mpr ⟨(), stages.fallbacks, bind_ok.mpr ⟨(), stages.types, pure_ok.mpr stages.model.symm⟩⟩

/-- A script of choices compiles if its ids may be told apart, and its steps are looked up in the text. -/
theorem Model.ofScript_flowSteps (source : Source) (filled : ids ≠ []) (distinct : ids.Nodup)
    (proper : ∀ id ∈ ids, Text.isBlankText id = false ∧ id ∉ reservedIds) :
    ∃ m, Model.ofScript source { steps := flowSteps 1 ids } = .ok m ∧
      m.steps = flowBuilt (.ofSteps source (flowSteps 1 ids)) ids.length 0 ids := by
  have questions : ∀ s ∈ flowBuilt (.ofSteps source (flowSteps 1 ids)) ids.length 0 ids, s.isQuestion = true :=
    flowBuilt_kind
  have names : ((declarationsOf 0 (flowBuilt (.ofSteps source (flowSteps 1 ids)) ids.length 0 ids)).map
      (·.name)).Nodup := by
    rw [declarationsOf_flowBuilt]
    exact List.Nodup.map flowOption_injective List.nodup_range'
  have checked : checkIds (.ofSteps source (flowSteps 1 ids)) 0 [] ids = .ok () :=
    checkIds_of_proper distinct (fun _ _ => List.not_mem_nil) proper
  have stages : CompiledFrom source { steps := flowSteps 1 ids }
      (flowBuilt (.ofSteps source (flowSteps 1 ids)) ids.length 0 ids) .empty _ _ := {
    filled := by cases ids <;> [exact absurd rfl filled; exact List.cons_ne_nil _ _]
    ids := by rwa [ids_flowSteps]
    built := by
      rw [ids_flowSteps]
      exact buildSteps_flowSteps
    read := rfl
    declared := declare_ok.mpr ⟨rfl, names⟩
    fallbacks := checkFallbacks_of_questions questions
    types := checkTypes_iff.mpr fun step member =>
      Step.checked_of_question (questions _ (List.of_mem_zip member).1)
    model := rfl }
  refine ⟨_, stages.ofScript, ?_⟩
  exact (List.map_congr_left fun s member => Step.typed_of_question (questions s member)).trans (List.map_id _)

end Questionnaire
