import Questionnaire.Proofs.Expression.Spans
import Questionnaire.Proofs.Model.Parts
import Questionnaire.Proofs.Model.Compile
import Questionnaire.Proofs.Source.Positions

/-!
Where the defects of a script are shown.

Every check of a script that fails blames a line, a part that was searched for, or a part of an
expression: `Places.Locates`. Ranges of all three kinds lie inside the script, and a part of an expression
that was found is shown as it stands in the expression: `defects_located`.
-/

namespace Questionnaire

open Text

/-- What is wrong with an expression, rather than with another part of a script. -/
def ScriptCause.isOfExpression : ScriptCause → Bool
  | expression .. | formulaType .. => true
  | _ => false

namespace Places

variable {p : Places} {step : Nat} {cause : ScriptCause} {range : Range}

/-- A defect whose range lies inside the script. An error of an expression is shown at its place in the
script, and formulas that disagree are shown whole. -/
structure Locates (p : Places) (d : Defect) : Prop where
  inside : d.range.Inside p.source.size
  error : ∀ id field cause, d.cause = .expression id field cause →
    ∃ step text e, ExprError.Arises text e ∧ d = p.exprDefect step id field text e
  disagreement : ∀ id name expected found, d.cause = .formulaType id name expected found →
    ∃ step text, d.range = p.inExpression step text ⟨0, text.utf8ByteSize⟩

theorem locates_of_inside (inside : range.Inside p.source.size) (other : cause.isOfExpression = false) :
    p.Locates ⟨cause, range⟩ where
  inside := inside
  error := by
    rintro id field cause rfl
    cases other
  disagreement := by
    rintro id name expected found rfl
    cases other

theorem line_inside (p : Places) (step : Nat) : (p.line step).Inside p.source.size :=
  p.source.lineRange_inside _

theorem within_inside (p : Places) (step : Nat) (text : String) :
    (p.within step text).Inside p.source.size := by
  unfold within
  split
  · exact p.source.range_inside _ _
  · exact p.line_inside step

theorem inExpression_inside (p : Places) (step : Nat) (text : String) (part : Span) :
    (p.inExpression step text part).Inside p.source.size := by
  unfold inExpression
  split
  · exact p.source.range_inside _ _
  · exact p.line_inside step

theorem locates_exprDefect {id text : String} {field : ExpressionField} {e : ExprError}
    (arises : e.Arises text) : p.Locates (p.exprDefect step id field text e) where
  inside := p.inExpression_inside step text e.span
  error := by
    rintro _ _ _ ⟨⟩
    exact ⟨step, text, e, arises, rfl⟩
  disagreement := by rintro _ _ _ _ ⟨⟩

theorem locates_disagreement {id name text : String} {expected found : AnswerType} :
    p.Locates ⟨.formulaType id name expected found,
      p.inExpression step text ⟨0, text.utf8ByteSize⟩⟩ where
  inside := p.inExpression_inside step text _
  error := by rintro _ _ _ ⟨⟩
  disagreement := fun _ _ _ _ _ => ⟨step, text, rfl⟩

/-- Where an expression is found from its step on, a part of it is shown as it stands there. -/
theorem slice?_inExpression {text : String} {part : Span} {place : Nat} {shown : List Char}
    (filled : text ≠ "") (found : p.source.find? text (p.offset step) = some place)
    (cut : part.slice? text.toList = some shown) :
    (p.inExpression step text part).span.slice? p.source.chars = some shown := by
  have searched : p.findIn? step text = some place := by
    rw [findIn?, if_neg (by simpa using filled), found]
  rw [inExpression, searched]
  exact Source.slice?_range found cut

end Places

open Places (locates_of_inside line_inside within_inside)

/-! ### Steps -/

namespace StepSite

variable {site : StepSite} {α : Type} {good : α → Prop} {part : String} {cause : ScriptCause}

theorem settles_failLine (other : cause.isOfExpression = false) :
    Settles site.places.Locates good (site.failLine cause) :=
  locates_of_inside (line_inside _ _) other

theorem settles_fail (other : cause.isOfExpression = false) :
    Settles site.places.Locates good (site.fail part cause) :=
  locates_of_inside (within_inside _ _ _) other

theorem settles_jump (id : String) : Settles site.places.Locates (fun _ => True) (site.jump id) := by
  unfold jump
  split
  · exact trivial
  · exact settles_fail rfl

theorem settles_target (raw : Option Script.Target) :
    Settles site.places.Locates (fun _ => True) (site.target raw) := by
  unfold target
  split
  · exact trivial
  · split
    · exact trivial
    · split
      · exact trivial
      · exact settles_jump _
  · exact settles_jump _
  · split
    · exact settles_fail rfl
    · exact trivial

theorem settles_label (other : cause.isOfExpression = false) (value : Yaml.Value) :
    Settles site.places.Locates (fun _ => True) (site.label cause value) := by
  unfold label
  split
  · split
    · exact settles_failLine other
    · exact trivial
  · exact settles_failLine other

theorem settles_expression (field : ExpressionField) (value : Yaml.Value) :
    Settles site.places.Locates (fun _ => True) (site.expression field value) := by
  unfold expression
  split
  · exact settles_failLine rfl
  · rename_i text _
    cases read : Formula.ofText text with
    | ok f => exact trivial
    | error e => exact Places.locates_exprDefect (.reading read)

theorem settles_labels (other : cause.isOfExpression = false) (values : List Yaml.Value) :
    Settles site.places.Locates (fun _ => True) (values.mapM (site.label cause)) :=
  settles_mapM fun value _ => settles_label other value

theorem settles_choice (options : List Yaml.Value) :
    Settles site.places.Locates (fun _ => True) (site.choice options) := by
  unfold choice
  refine settles_refuse (locates_of_inside (within_inside _ _ _) rfl) fun _ => ?_
  exact (settles_labels rfl options).bind fun _ _ => trivial

theorem settles_optionType (question : Script.Question) (options : List String) :
    Settles site.places.Locates (fun _ => True) (site.optionType question options) := by
  unfold optionType
  split
  · exact trivial
  · exact trivial
  · exact trivial
  · split
    · exact settles_fail rfl
    · exact trivial

theorem settles_asked (question : Script.Question) :
    Settles site.places.Locates (fun _ => True) (site.asked question) := by
  unfold asked
  refine settles_refuse (locates_of_inside (within_inside _ _ _) rfl) fun _ => ?_
  dsimp only
  split
  · exact trivial
  · rename_i values _
    refine (settles_labels rfl values).bind fun options _ => ?_
    refine settles_refuse (locates_of_inside (within_inside _ _ _) rfl) fun _ => ?_
    exact (settles_optionType question options).bind fun _ _ => trivial

theorem settles_questions (raw : List Script.Question) :
    Settles site.places.Locates (fun _ => True) (site.questions raw) := by
  unfold questions
  refine settles_refuse (locates_of_inside (within_inside _ _ _) rfl) fun _ => ?_
  exact (settles_mapM fun q _ => settles_asked q).bind fun _ _ => trivial

theorem settles_case (c : Script.Case) : Settles site.places.Locates (fun _ => True) (site.case c) := by
  have guard : Settles site.places.Locates (fun _ => True)
      (c.guard.mapM (site.expression .caseCondition)) := by
    cases c.guard with
    | none => exact trivial
    | some value => exact (settles_expression _ value).map fun _ _ => trivial
  refine guard.bind fun _ _ => ?_
  exact (settles_expression _ c.formula).bind fun _ _ => trivial

theorem settles_derivation (d : Script.Derivation) :
    Settles site.places.Locates (fun _ => True) (site.derivation d) := by
  unfold derivation
  refine settles_refuse (locates_of_inside (within_inside _ _ _) rfl) fun _ => ?_
  split
  · rename_i formula _ _
    have single : Settles site.places.Locates (fun _ => True)
        ((site.expression .formula formula).map fun f => [Case.mk none f]) :=
      (settles_expression _ formula).map fun _ _ => trivial
    exact single.bind fun _ _ => trivial
  · exact (settles_mapM fun c _ => settles_case c).bind fun _ _ => trivial
  · have refused : Settles site.places.Locates (fun _ : List Case => True)
        (site.fail "derive" (.noFormula site.step.id)) := settles_fail rfl
    exact refused.bind fun _ _ => trivial

theorem settles_gate (g : Script.Gate) : Settles site.places.Locates (fun _ => True) (site.gate g) := by
  unfold gate
  refine (settles_expression _ g.condition).bind fun _ _ => ?_
  refine (settles_target g.onTrue).bind fun _ _ => ?_
  refine (settles_target g.onFalse).bind fun _ _ => ?_
  split
  · exact trivial
  · split
    · exact trivial
    · exact settles_fail rfl

theorem settles_kind (site : StepSite) : Settles site.places.Locates (fun _ => True) site.kind := by
  unfold StepSite.kind
  split
  · exact settles_choice _
  · exact settles_questions _
  · exact settles_derivation _
  · split
    · exact settles_fail rfl
    · exact settles_gate _
  · exact settles_failLine rfl

theorem settles_build (site : StepSite) :
    Settles site.places.Locates (fun s => ∀ f ∈ s.kind.formulas, f.IsRead) site.build := by
  have built : Settles site.places.Locates (fun _ => True) site.build := by
    refine (settles_kind site).bind fun kind _ => ?_
    split
    · exact trivial
    · exact (settles_target site.step.next).bind fun _ _ => trivial
  cases made : site.build with
  | ok s => exact build_read made
  | error d => exact built.of_error made

end StepSite

/-! ### Scripts -/

theorem settles_checkIds (places : Places) (index : Nat) (taken ids : List String) :
    Settles places.Locates (fun _ => True) (checkIds places index taken ids) := by
  induction ids generalizing index taken with
  | nil => exact trivial
  | cons id ids ih =>
    unfold checkIds
    split
    · exact locates_of_inside (line_inside _ _) rfl
    · split
      · exact locates_of_inside (line_inside _ _) rfl
      · split
        · exact locates_of_inside (line_inside _ _) rfl
        · exact ih _ _

theorem settles_buildSteps (places : Places) (ids : List String) (index : Nat) (raw : List Script.Step) :
    Settles places.Locates (fun steps => ∀ s ∈ steps, ∀ f ∈ s.kind.formulas, f.IsRead)
      (buildSteps places ids index raw) := by
  induction raw generalizing index with
  | nil => exact List.forall_mem_nil _
  | cons step rest ih =>
    unfold buildSteps
    refine (StepSite.settles_build ⟨places, ids, index, step⟩).bind fun built read => ?_
    exact (ih (index + 1)).bind fun others later => List.forall_mem_cons.mpr ⟨read, later⟩

theorem Source.constantRange_inside (source : Source) (start : Nat) (name : String) :
    (source.constantRange start name).Inside source.size := by
  unfold constantRange
  split
  · exact source.range_inside _ _
  · exact source.lineRange_inside _

theorem settles_addConstants (places : Places) (start : Nat) (constants : ParameterStore)
    (raw : List Script.Constant) :
    Settles places.Locates (fun _ => True) (addConstants places.source start constants raw) := by
  induction raw generalizing constants with
  | nil => exact trivial
  | cons c rest ih =>
    have inside := places.source.constantRange_inside start c.name
    unfold addConstants
    dsimp only
    split
    · exact locates_of_inside inside rfl
    · split
      · exact locates_of_inside inside rfl
      · split
        · exact locates_of_inside inside rfl
        · exact ih _

theorem settles_addDeclarations (places : Places) (ids : List String) (declared ds : List Declaration) :
    Settles places.Locates (fun _ => True) (addDeclarations places ids declared ds) := by
  induction ds generalizing declared with
  | nil => exact trivial
  | cons d rest ih =>
    unfold addDeclarations
    split
    · exact ih _
    · exact locates_of_inside (within_inside _ _ _) rfl

theorem settles_checkFallbacks (places : Places) (all : List Step) (index : Nat) (steps : List Step) :
    Settles places.Locates (fun _ => True) (checkFallbacks places all index steps) := by
  induction steps generalizing index with
  | nil => exact trivial
  | cons s rest ih =>
    unfold checkFallbacks
    split
    · split
      · split
        · exact ih _
        · exact locates_of_inside (within_inside _ _ _) rfl
      · exact ih _
    · exact ih _

/-! #### Types -/

namespace TypingSite

variable {site : TypingSite} {f : Formula}

theorem settles_checkCondition (read : f.IsRead) (field : ExpressionField) :
    Settles site.places.Locates (fun _ => True) (site.checkCondition field f) := by
  unfold checkCondition
  cases checked : f.root.checkCondition site.table.get? with
  | ok => exact trivial
  | error e => exact Places.locates_exprDefect (.condition read _ checked)

theorem settles_formulaType (read : f.IsRead) :
    Settles site.places.Locates (fun _ => True) (site.formulaType f) := by
  unfold formulaType
  cases checked : f.root.type site.table.get? with
  | ok => exact trivial
  | error e => exact Places.locates_exprDefect (.typing read _ checked)

theorem settles_checkCases {name : String} {cases : List Case} (agreed : Option AnswerType)
    (read : ∀ c ∈ cases, ∀ f ∈ c.formulas, f.IsRead) :
    Settles site.places.Locates (fun _ => True) (site.checkCases name agreed cases) := by
  induction cases generalizing agreed with
  | nil => exact trivial
  | cons c rest ih =>
    rw [List.forall_mem_cons] at read
    obtain ⟨here, later⟩ := read
    have formula : c.formula.IsRead := here _ (List.mem_append_right _ List.mem_cons_self)
    -- Without a guard the formula is typed and compared.
    have follows : Settles site.places.Locates (fun _ => True)
        (site.checkCases name agreed (⟨none, c.formula⟩ :: rest)) := by
      unfold checkCases
      refine (settles_formulaType formula).bind fun type _ => ?_
      split
      · exact ih _ later
      · split
        · exact ih _ later
        · split
          · exact ih _ later
          · exact Places.locates_disagreement
    unfold checkCases at follows ⊢
    cases given : c.guard with
    | none => exact follows
    | some guard =>
      have guarded : guard.IsRead := here _ (List.mem_append_left _ (by simp [given]))
      exact (settles_checkCondition guarded .caseCondition).bind fun _ _ => follows

end TypingSite

theorem settles_checkTypes (places : Places) {steps : List Step} (table : TypeTable) (index : Nat)
    (declared : List (Option AnswerType)) (read : ∀ s ∈ steps, ∀ f ∈ s.kind.formulas, f.IsRead) :
    Settles places.Locates (fun _ => True) (checkTypes places table index steps declared) := by
  induction steps generalizing index declared with
  | nil => exact trivial
  | cons s steps ih =>
    rw [List.forall_mem_cons] at read
    obtain ⟨here, later⟩ := read
    cases declared with
    | nil => exact trivial
    | cons type declared =>
      have rest := ih (index + 1) declared later
      unfold checkTypes
      dsimp only
      cases kind : s.kind with
      | gate condition onTrue onFalse fallback =>
        rw [kind] at here
        have condition := here condition List.mem_cons_self
        exact (TypingSite.settles_checkCondition condition .condition).bind fun _ _ => rest
      | derivation name type' cases =>
        rw [kind] at here
        have read : ∀ c ∈ cases, ∀ f ∈ c.formulas, f.IsRead := fun c member f formula =>
          here f (List.mem_flatMap.mpr ⟨c, member, formula⟩)
        exact (TypingSite.settles_checkCases type read).bind fun _ _ => rest
      | question => exact rest

namespace Model

theorem settles_ofScript (source : Source) (script : Script) :
    Settles (Places.ofSteps source script.steps).Locates (fun _ => True) (ofScript source script) := by
  let p := Places.ofSteps source script.steps
  unfold ofScript
  refine settles_refuse (locates_of_inside (p := p) (source.lineRange_inside 0) rfl) fun _ => ?_
  refine (settles_checkIds p _ _ _).bind fun _ _ => ?_
  refine (settles_buildSteps p _ _ _).bind fun steps read => ?_
  refine (settles_addConstants p _ _ _).bind fun constants _ => ?_
  refine (settles_addDeclarations p _ _ _).bind fun declarations _ => ?_
  refine (settles_checkFallbacks p _ _ _).bind fun _ _ => ?_
  exact (settles_checkTypes p _ _ _ read).bind fun _ _ => trivial

theorem ofText_error {text : String} {d : Defect} (failed : ofText text = .error d) :
    (∃ e, d = ⟨.document e, (Source.ofText text).documentRange e⟩) ∨
      ∃ script, Script.ofText text = .ok script ∧
        (Places.ofSteps (.ofText text) script.steps).Locates d := by
  unfold ofText at failed
  cases read : Script.ofText text with
  | error e =>
    rw [read] at failed
    exact .inl ⟨e, (Except.error.inj failed).symm⟩
  | ok script =>
    rw [read] at failed
    exact .inr ⟨script, rfl, (settles_ofScript _ _).of_error failed⟩

theorem ofText_error_inside {text : String} {d : Defect} (failed : ofText text = .error d) :
    d.range.Inside text.utf8ByteSize := by
  have size : (Source.ofText text).size = text.utf8ByteSize := byteLength_toList text
  rw [← size]
  rcases ofText_error failed with ⟨e, rfl⟩ | ⟨_, _, located⟩
  · exact Source.lineRange_inside _ _
  · exact located.inside

/-- Errors of an expression have spans that are in order, lie in its text and fall between characters,
and the span of an unknown name shows the name. Where the text of the expression is found in a script
from its step on, the range of the defect shows what the span shows. The range of any defect of a script
is in order and lies in the script. Defects of expressions are located in this way, by the span of the
error or, where formulas disagree, by the whole text of one of them. -/
theorem defects_located (script : String) :
    (∀ (text : String) (e : ExprError), e.Arises text →
      e.span.start ≤ e.span.stop ∧ e.span.stop ≤ text.utf8ByteSize ∧
      IsBoundary text.toList e.span.start ∧ IsBoundary text.toList e.span.stop ∧
      ∃ shown, e.span.slice? text.toList = some shown ∧
        (∀ name, e.cause = .unknownParameter name → shown = name.toList) ∧
        ∀ (p : Places) (step : Nat) (id : String) (field : ExpressionField) (place : Nat), text ≠ "" →
          p.source.find? text (p.offset step) = some place →
          (p.exprDefect step id field text e).range.span.slice? p.source.chars = some shown) ∧
    ∀ d, Model.ofText script = .error d →
      d.range.start.index ≤ d.range.finish.index ∧ d.range.finish.index ≤ script.utf8ByteSize ∧
      (∀ id field cause, d.cause = .expression id field cause →
        ∃ parsed step text e, Script.ofText script = .ok parsed ∧ e.Arises text ∧
          d = (Places.ofSteps (.ofText script) parsed.steps).exprDefect step id field text e) ∧
      ∀ id name expected found, d.cause = .formulaType id name expected found →
        ∃ parsed p step text, Script.ofText script = .ok parsed ∧
          p = Places.ofSteps (.ofText script) parsed.steps ∧
          ∀ place, text ≠ "" → p.source.find? text (p.offset step) = some place →
            d.range.span.slice? p.source.chars = some text.toList := by
  refine ⟨fun text e arises => ?_, fun d failed => ?_⟩
  · have fits : e.span.Fits text.toList := arises.placed.fits
    obtain ⟨shown, cut⟩ := Span.fits_iff.mp fits
    have inside : e.span.stop ≤ text.utf8ByteSize := byteLength_toList text ▸ fits.stop_le
    refine ⟨fits.ordered, inside, fits.start, fits.stop, shown, cut, fun name unknown => ?_, ?_⟩
    · exact Option.some.inj (cut.symm.trans (arises.placed.name name unknown))
    · intro p step id field place filled found
      exact Places.slice?_inExpression filled found cut
  · obtain ⟨ordered, inside⟩ := ofText_error_inside failed
    refine ⟨ordered, inside, ?_⟩
    rcases ofText_error failed with ⟨e, rfl⟩ | ⟨parsed, read, located⟩
    · exact ⟨by rintro _ _ _ ⟨⟩, by rintro _ _ _ _ ⟨⟩⟩
    · constructor
      · intro id field cause same
        obtain ⟨step, text, e, arises, made⟩ := located.error id field cause same
        exact ⟨parsed, step, text, e, read, arises, made⟩
      · intro id name expected found same
        obtain ⟨step, text, shown⟩ := located.disagreement id name expected found same
        refine ⟨parsed, _, step, text, read, rfl, fun place filled begins => ?_⟩
        have whole : (⟨0, text.utf8ByteSize⟩ : Span).slice? text.toList = some text.toList :=
          byteLength_toList text ▸ Span.slice?_whole text.toList
        rw [shown]
        exact Places.slice?_inExpression filled begins whole

def accentedScript : String := "steps:\n" ++ "  - id: grens\n" ++ "    gate: \x7b when: 1 > één \x7d\n"

/-- The places of the script, with its step behind the first line. -/
def accentedPlaces : Places := ⟨.ofText accentedScript, [11]⟩

def accentedError : ExprError := ⟨.unknownParameter "één", ⟨4, 9⟩⟩

/-- An unknown name is shown in full, although its characters take more than one byte. -/
theorem defects_located_accented : accentedError.Arises "1 > één" ∧
    accentedError.span.slice? "1 > één".toList = some "één".toList ∧
    accentedPlaces.source.find? "1 > één" (accentedPlaces.offset 0) = some 39 ∧
    ∃ d, d = accentedPlaces.exprDefect 0 "grens" .condition "1 > één" accentedError ∧
      Model.ofText accentedScript = .error d ∧ d.range.span = ⟨43, 48⟩ ∧
      d.range.finish.index ≤ accentedScript.utf8ByteSize ∧
      d.range.span.slice? accentedScript.toList = some "één".toList := by
  have written : accentedScript = String.ofList _ := literal_append (literal_append rfl rfl) rfl
  have checked : (Formula.ofText "1 > één" >>= fun f => f.root.checkCondition fun _ => none) =
      .error accentedError := by decide +kernel
  have arises : accentedError.Arises "1 > één" := by
    cases read : Formula.ofText "1 > één" with
    | ok f => exact .condition read _ (by rw [← checked, read]; rfl)
    | error e =>
      rw [read] at checked
      cases checked
      exact .reading read
  have places : accentedPlaces = ⟨⟨(String.ofList _).toList⟩, [11]⟩ :=
    congrArg (fun text : String => (⟨⟨text.toList⟩, [11]⟩ : Places)) written
  rw [String.toList_ofList] at places
  have found : accentedPlaces.source.find? "1 > één" (accentedPlaces.offset 0) = some 39 := by
    rw [places]
    decide +kernel
  have bytes : (accentedPlaces.exprDefect 0 "grens" .condition "1 > één" accentedError).range.span =
      ⟨43, 48⟩ := by
    rw [places]
    decide +kernel
  have failed : Model.ofText accentedScript =
      .error (accentedPlaces.exprDefect 0 "grens" .condition "1 > één" accentedError) := by
    rw [places, Model.ofText_eq written]
    decide +kernel
  obtain ⟨errors, defects⟩ := defects_located accentedScript
  obtain ⟨-, -, -, -, shown, cut, spelled, located⟩ := errors _ _ arises
  obtain rfl := spelled _ rfl
  obtain ⟨-, inside, -⟩ := defects _ failed
  exact ⟨arises, cut, found, _, rfl, failed, bytes, inside,
    located accentedPlaces 0 "grens" .condition 39 (by decide) found⟩

end Model

end Questionnaire
