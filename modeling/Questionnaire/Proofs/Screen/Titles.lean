import Questionnaire.Interview.Session
import Questionnaire.Proofs.Model.Ids
import Questionnaire.Proofs.Run.Asking
import Questionnaire.Proofs.Screen.Elements

/-!
Titles of screens.

Steps and questions give their descriptions to one dictionary, in the order of the script, and of two with
one name the later one counts. Ids of steps are apart from each other and so are names of questions, but a
question may have the id of a step. So the title of a step is its description unless a question of its name
comes with it or behind it: `title_is_description_iff`.
-/

namespace Questionnaire

/-- The captions of the questions of a step, other than that of the step. -/
def Step.questionCaptions (s : Step) : List (String × String) :=
  (s.asked.filter fun p => !p.description.isEmpty && p.description ≠ s.description).map fun p =>
    (p.name, p.description)

def Step.captions (s : Step) : List (String × String) :=
  (if s.description.isEmpty then [] else [(s.id, s.description)]) ++ s.questionCaptions

theorem Step.mem_questionCaptions {s : Step} {name caption : String} :
    (name, caption) ∈ s.questionCaptions ↔ ∃ p ∈ s.asked, p.name = name ∧ p.description = caption ∧
      caption ≠ "" ∧ caption ≠ s.description := by
  simp only [questionCaptions, List.mem_map, List.mem_filter, Prod.mk.injEq, Bool.and_eq_true,
    Bool.not_eq_true', String.isEmpty_eq_false_iff, decide_eq_true_iff]
  constructor
  · rintro ⟨p, ⟨asked, filled, apart⟩, named, rfl⟩
    exact ⟨p, asked, named, rfl, filled, apart⟩
  · rintro ⟨p, asked, named, rfl, filled, apart⟩
    exact ⟨p, ⟨asked, filled, apart⟩, named, rfl⟩

theorem Step.mem_captions {s : Step} {name caption : String} (other : name ≠ s.id) :
    (name, caption) ∈ s.captions ↔ (name, caption) ∈ s.questionCaptions := by
  rw [captions, List.mem_append]
  refine or_iff_right fun own => ?_
  split at own
  · cases own
  · exact other (Prod.mk.inj (List.mem_singleton.mp own)).1

namespace Model

variable {m : Model} {q : Step} {i : Nat} {name caption caption' : String} {r : Result} {source : Source}
  {script : Script} {steps : List Step} {constants : ParameterStore} {declarations : List Declaration}

/-- A question of a step, or of one behind it, has a name and a caption of its own. -/
def Captions (m : Model) (i : Nat) (name caption : String) : Prop :=
  ∃ t ∈ m.steps.drop i, ∃ p ∈ t.asked, p.name = name ∧ p.description = caption ∧
    caption ≠ "" ∧ caption ≠ t.description

theorem steps_from (found : m.steps[i]? = some q) : m.steps.drop i = q :: m.steps.drop (i + 1) := by
  obtain ⟨bound, here⟩ := List.getElem?_eq_some_iff.mp found
  rw [← here, ← List.drop_eq_getElem_cons bound]

/-- The title under the id of a step is its description, unless something is put in its place later. -/
theorem get?_titles (found : m.steps[i]? = some q) (described : q.description ≠ "") :
    Dictionary.get? q.id m.titles = some ((Dictionary.get? q.id
      (q.questionCaptions ++ (m.steps.drop (i + 1)).flatMap (·.captions)).reverse).getD q.description) := by
  have titles : m.titles = Dictionary.ofList (m.steps.flatMap (·.captions)) := rfl
  have own : q.captions = (q.id, q.description) :: q.questionCaptions := by
    rw [Step.captions, if_neg (by simpa using described), List.singleton_append]
  have entries : m.steps.flatMap (·.captions) = (m.steps.take i).flatMap (·.captions) ++
      (q.id, q.description) :: (q.questionCaptions ++ (m.steps.drop (i + 1)).flatMap (·.captions)) := by
    conv_lhs => rw [← List.take_append_drop i m.steps, steps_from found, List.flatMap_append,
      List.flatMap_cons, own, List.cons_append]
  rw [titles, entries, Dictionary.get?_ofList, List.reverse_append, List.reverse_cons,
    Dictionary.get?_append, Dictionary.get?_append, Dictionary.get?_cons, if_pos rfl]
  cases Dictionary.get? q.id
    (q.questionCaptions ++ (m.steps.drop (i + 1)).flatMap (·.captions)).reverse <;> rfl

theorem CompiledFrom.mem_later
    (stages : CompiledFrom source script steps constants declarations m) (found : m.steps[i]? = some q) :
    (q.id, caption) ∈ q.questionCaptions ++ (m.steps.drop (i + 1)).flatMap (·.captions) ↔
      m.Captions i q.id caption := by
  -- No later step has the id, so what is put there comes from questions.
  have apart : ∀ t ∈ m.steps.drop (i + 1), q.id ≠ t.id := by
    have distinct := stages.ids_nodup.sublist ((List.drop_sublist i m.steps).map (·.id))
    rw [steps_from found, List.map_cons, List.nodup_cons] at distinct
    intro t later same
    exact distinct.1 (same ▸ List.mem_map_of_mem later)
  simp only [Captions, ← Step.mem_questionCaptions]
  rw [steps_from found, List.exists_mem_cons_iff, List.mem_append, List.mem_flatMap]
  refine or_congr_right (exists_congr fun t => and_congr_right fun later => ?_)
  exact Step.mem_captions (apart t later)

/-- There is one question of a name. -/
theorem WellFormed.captions_unique (wellFormed : m.WellFormed) (one : m.Captions i name caption)
    (other : m.Captions i name caption') : caption = caption' := by
  obtain ⟨s, present, p, asked, named, rfl, -⟩ := one
  obtain ⟨t, present', p', asked', named', rfl, -⟩ := other
  obtain ⟨j, found⟩ := List.mem_iff_getElem?.mp (List.mem_of_mem_drop present)
  obtain ⟨k, found'⟩ := List.mem_iff_getElem?.mp (List.mem_of_mem_drop present')
  have first := wellFormed.asked?_eq_some found asked
  have second := wellFormed.asked?_eq_some found' asked'
  rw [named] at first
  rw [named', first] at second
  cases second
  rfl

theorem CompiledFrom.title_of_captions
    (stages : CompiledFrom source script steps constants declarations m) (found : m.steps[i]? = some q)
    (described : q.description ≠ "") (later : m.Captions i q.id caption) :
    Dictionary.get? q.id m.titles = some caption := by
  have member := (stages.mem_later found).mpr later
  have listed := Dictionary.get?_isSome.mpr (List.mem_map_of_mem (List.mem_reverse.mpr member))
  obtain ⟨last, here⟩ := Option.isSome_iff_exists.mp listed
  have final := (stages.mem_later found).mp (List.mem_reverse.mp (Dictionary.mem_of_get? here))
  rw [get?_titles found described, here, Option.getD_some, stages.wellFormed.captions_unique later final]

theorem CompiledFrom.title_of_none
    (stages : CompiledFrom source script steps constants declarations m) (found : m.steps[i]? = some q)
    (described : q.description ≠ "") (none : ¬∃ caption, m.Captions i q.id caption) :
    Dictionary.get? q.id m.titles = some q.description := by
  rw [get?_titles found described]
  cases here : Dictionary.get? q.id
      (q.questionCaptions ++ (m.steps.drop (i + 1)).flatMap (·.captions)).reverse with
  | none => rfl
  | some last =>
    have final := (stages.mem_later found).mp (List.mem_reverse.mp (Dictionary.mem_of_get? here))
    exact absurd ⟨last, final⟩ none

/-- What asks for something is titled by the description of its step, if it has one, just if no question of
the step or of a step behind it has the id of the step as its name and another description. Such a question
gives its description to the screen. -/
theorem title_is_description_iff {text : String} {config : Config} {answers : ParameterStore}
    (compiled : Model.ofText text = .ok m) (ran : m.run config answers = .ok r)
    (halted : r.isTerminal = false) :
    ∃ i q, m.steps[i]? = some q ∧ r.Asks q ∧ (q.description ≠ "" →
      ((Prompt.ofResult m.labels r).label = q.description ↔
        ¬∃ caption, m.Captions i q.id caption ∧ caption ≠ q.description) ∧
      ∀ caption, m.Captions i q.id caption → (Prompt.ofResult m.labels r).label = caption) := by
  obtain ⟨_, _, _, _, stages⟩ := ofText_ok compiled
  obtain ⟨q, step, asks⟩ := stages.asks_of_halted ran halted
  obtain ⟨i, found⟩ := List.mem_iff_getElem?.mp step
  refine ⟨i, q, found, asks, fun described => ?_⟩
  obtain ⟨first, others, listed⟩ := List.exists_cons_of_ne_nil asks.filled
  have label {title : String} (titled : Dictionary.get? q.id m.titles = some title) :
      (Prompt.ofResult m.labels r).label = title := by
    have own : m.labels.title r.questions.label = some title := asks.label ▸ titled
    rw [Prompt.ofResult_of_cons listed, own]
    rfl
  have captioned {caption : String} (later : m.Captions i q.id caption) :
      (Prompt.ofResult m.labels r).label = caption :=
    label (stages.title_of_captions found described later)
  refine ⟨⟨?_, ?_⟩, fun caption later => captioned later⟩
  · rintro same ⟨caption, later, other⟩
    exact other ((captioned later).symm.trans same)
  · intro own
    by_cases later : ∃ caption, m.Captions i q.id caption
    · obtain ⟨caption, later⟩ := later
      have same : caption = q.description := by
        by_contra other
        exact own ⟨caption, later, other⟩
      exact (captioned later).trans same
    · exact label (stages.title_of_none found described later)

/-! ### A question with the id of a step -/

/-- A script that asks where someone lives, and then for the price of what has the id of the first step. -/
def estateScript : String :=
  "steps:\n  - id: woning\n    description: Waar woont u?\n    ask: [\x7bname: plaats\x7d]\n" ++
    "  - id: bezit\n    description: Wat bezit u?\n" ++
    "    ask: [\x7bname: woning, description: Wat kost uw woning?\x7d]\n"

def placeStep : Step :=
  ⟨"woning", "Waar woont u?", .question [⟨"plaats", .unknown, .unknown, [], "Waar woont u?"⟩] .all,
    .step 1, ⟨⟨2, 5, 11⟩, ⟨2, 15, 21⟩⟩⟩

def estateStep : Step :=
  ⟨"bezit", "Wat bezit u?", .question [⟨"woning", .unknown, .unknown, [], "Wat kost uw woning?"⟩] .all,
    .finish none, ⟨⟨5, 5, 83⟩, ⟨5, 14, 92⟩⟩⟩

def estateModel : Model :=
  ⟨[], .empty, [placeStep, estateStep],
    [⟨"plaats", .question 0, .unknown⟩, ⟨"woning", .question 1, .unknown⟩]⟩

theorem ofText_estateScript : Model.ofText estateScript = .ok estateModel := by
  have written : estateScript = String.ofList _ := literal_append (literal_append rfl rfl) rfl
  rw [Model.ofText_eq written]
  exact ok_of_toOption (by decide +kernel)

def placeResult : Result where
  questions := ⟨"woning", .ofList [.question "plaats" .unknown []]⟩
  parameters := .empty
  trace := [⟨"woning", "question", "Waar woont u?", ["plaats"]⟩]
  outcome := none

def estateResult : Result where
  questions := ⟨"bezit", .ofList [.question "woning" .unknown []]⟩
  parameters := .ofList [.ofText "plaats" "Delft"]
  trace := [⟨"woning", "question", "Waar woont u?", ["plaats"]⟩,
    ⟨"bezit", "question", "Wat bezit u?", ["woning"]⟩]
  outcome := none

/-- Nothing has the id of the second step as its name. -/
theorem title_is_description_estate :
    Model.ofText estateScript = .ok estateModel ∧
      estateModel.run {} (.ofList [.ofText "plaats" "Delft"]) = .ok estateResult ∧
      estateResult.isTerminal = false ∧ estateResult.Asks estateStep ∧
      (Prompt.ofResult estateModel.labels estateResult).label = estateStep.description := by
  have ran : estateModel.run {} (.ofList [.ofText "plaats" "Delft"]) = .ok estateResult := by decide
  obtain ⟨i, q, found, asks, titled⟩ := title_is_description_iff ofText_estateScript ran rfl
  have second : ∀ s ∈ estateModel.steps, s.id = "bezit" → s = estateStep := by decide
  obtain rfl := second q (List.mem_of_getElem? found) asks.label.symm
  refine ⟨ofText_estateScript, ran, rfl, asks, (titled (by decide)).1.mpr ?_⟩
  rintro ⟨caption, ⟨t, present, p, asked, named, -⟩, -⟩
  have apart : ∀ t ∈ estateModel.steps, ∀ p ∈ t.asked, p.name ≠ "bezit" := by decide
  exact apart t (List.mem_of_mem_drop present) p asked named

/-- The first screen has the description of the second question as its title. -/
theorem title_taken_by_question :
    Model.ofText estateScript = .ok estateModel ∧ estateModel.run {} .empty = .ok placeResult ∧
      placeResult.isTerminal = false ∧ placeStep ∈ estateModel.steps ∧
      placeStep.id = placeResult.questions.label ∧ placeStep.description = "Waar woont u?" ∧
      (Prompt.ofResult estateModel.labels placeResult).label = "Wat kost uw woning?" ∧
      (Prompt.ofResult estateModel.labels placeResult).label ≠ placeStep.description :=
  ⟨ofText_estateScript, by decide, rfl, List.mem_cons_self, rfl, rfl, by decide, by decide⟩

end Model

end Questionnaire
