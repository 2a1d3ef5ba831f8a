import Mathlib.Data.List.Infix
import Questionnaire.Proofs.Answers.Taken
import Questionnaire.Proofs.Interview.Turns
import Questionnaire.Proofs.Run.Progress

/-!
What a session shows.

The fields of a screen are filled in with what the latest run knows, which for a question is its answer
as a value of the declared type: `WellFormed.prefills`. All results that a screen is made of are there,
so a session never loses its place, and a transcript holds the screens of its session:
`converse_screens`.
-/

namespace Questionnaire

namespace Result

variable {target : Result} {latest : ParameterStore} {name : String}

theorem replay_get? (asked : name ∈ target.questions.parameters.names) :
    (target.replay latest).parameters.get? name = latest.get? name := by
  have keeps (q p : Parameter) (found : latest.get? q.name = some p) : p.name = q.name :=
    (ParameterStore.get?_eq_some.mp found).2
  have filled : (target.replay latest).parameters.get? name =
      (target.questions.parameters.get? name).bind fun q => latest.get? q.name :=
    ParameterStore.get?_of_filterMap keeps (ParameterStore.toList_ofList_filterMap keeps) name
  obtain ⟨q, member, named⟩ := List.mem_map.mp asked
  have here := ParameterStore.get?_eq_some.mpr ⟨member, named⟩
  rw [here, Option.bind_some, named] at filled
  exact filled

end Result

namespace Model

/-- What the field of a name is filled in with: the answer as a value of the type that is declared for
it, and nothing if there is none. -/
def Prefills (m : Model) (answers : ParameterStore) (name : String) (field : Option Parameter) : Prop :=
  ∃ step asked, m.asked? name = some (step, asked) ∧
    if answers.isKnown name then
      ∃ v, (answers.value name).coerce? asked.valueType = some v ∧ field = some (.ofValue name v)
    else field = none

variable {m : Model} {config : Config} {answers others : ParameterStore} {r target : Result}
  {s : Step} {q : AskedParameter} {name : String}

/-- An earlier screen is filled in with the answers of the latest run. -/
theorem WellFormed.prefills (wellFormed : m.WellFormed) (shown : m.run config others = .ok target)
    (latest : m.run config answers = .ok r) (asked : name ∈ target.questions.parameters.names) :
    m.Prefills answers name ((target.replay r.parameters).parameters.get? name) := by
  obtain ⟨⟨s, step, q, here, rfl⟩, _⟩ := mem_openNames.mp (wellFormed.asked_open shown asked)
  obtain ⟨index, found⟩ := List.mem_iff_getElem?.mp step
  refine ⟨index, q, wellFormed.asked?_eq_some found here, ?_⟩
  rw [Result.replay_get? asked]
  exact wellFormed.get?_result latest step here

end Model

@[simp] theorem Transcript.after_error (screen : String) (notice : Option Notice) (t : Transcript) :
    (t.after screen notice).error = t.error := rfl

@[simp] theorem Transcript.after_screens (screen : String) (notice : Option Notice) (t : Transcript) :
    (t.after screen notice).screens = screen ++ t.screens := rfl

namespace Session

variable {first s : Session} {lines : List String}

/-! ### Places -/

/-- Every screen that a session refers to is there. -/
def Inside (s : Session) : Prop := ∀ index ∈ s.shown :: s.trail, index < s.history.size

theorem inside_stepAll (inside : first.Inside) (lines : List String) :
    (first.stepAll lines).Inside := by
  induction lines using List.reverseRecOn with
  | nil => exact inside
  | append_singleton lines line ih =>
    rcases first.stepAll_cases lines line with same | ⟨previous, rest, trail, same⟩ |
      ⟨answers, r, _, same⟩
    · rwa [same]
    · rw [same]
      intro index member
      rw [Inside, trail] at ih
      exact ih index (List.mem_cons_of_mem _ member)
    · rw [same]
      intro index member
      have more : ((first.stepAll lines).answered answers r).history.size =
          (first.stepAll lines).history.size + 1 := History.size_push _ r
      rw [more]
      rcases List.mem_cons.mp member with rfl | earlier
      · exact Nat.lt_succ_self _
      · exact Nat.lt_succ_of_lt (ih index earlier)

/-- A session shows the result at its place with the fields filled in from the latest one. -/
theorem view_eq {target latest : Result} (there : s.history.results[s.shown]? = some target)
    (last : s.history.latest? = some latest) :
    s.current = .ok target ∧
      s.history.display s.shown (s.history.latestIndex?.getD s.shown) =
        .ok (target.replay latest.parameters) ∧
      s.view = .ok (if target.isTerminal then .done target.toText
        else .ask ((s.prompt target).screen (target.replay latest.parameters).parameters ++ "> ")) := by
  have current : s.current = .ok target := by rw [current, History.get, there]
  have number : s.history.latestIndex?.getD s.shown = s.history.size - 1 := by
    obtain ⟨inside, _⟩ := List.getElem?_eq_some_iff.mp there
    have filled : s.history.size ≠ 0 := Nat.ne_zero_of_lt inside
    rw [History.latestIndex?, if_neg filled, Option.getD_some]
  have newest : s.history.get (s.history.size - 1) = .ok latest := by
    rw [History.latest?, List.getLast?_eq_getElem?] at last
    rw [History.get, History.size, last]
  have display : s.history.display s.shown (s.history.size - 1) =
      .ok (target.replay latest.parameters) := by
    unfold History.display
    rw [newest, History.get, there]
    rfl
  refine ⟨current, by rw [number, display], ?_⟩
  rw [view, number, display, current]
  cases terminal : target.isTerminal <;> simp [terminal, bind, Except.bind, pure, Except.pure]

/-! ### Transcripts -/

def screen (s : Session) : String :=
  match s.view with
  | .ok (.done text) => text
  | .ok (.ask text) => text
  | .error _ => ""

theorem screen_of_view {text : String} (view : s.view = .ok (.ask text)) : s.screen = text := by
  rw [screen, view]

theorem converse_cons {line text : String} (view : s.view = .ok (.ask text))
    (stays : Command.ofLine line ≠ .quit) :
    s.converse (line :: lines) = ((s.step (.ofLine line)).1.converse lines).after text
      (s.step (.ofLine line)).2 := by
  rw [converse]
  simp only [view]

/-- An interview in which no result is missing writes the screens of the session after each of the lines
that it reads, and a line break if it runs out of lines. -/
theorem converse_screens (views : ∀ lines, ∃ v, (s.stepAll lines).view = .ok v) (lines : List String) :
    (s.converse lines).error = none ∧ ∃ read, read <+: lines ∧ ∃ close ∈ ["", "\n"],
      (s.converse lines).screens =
        String.join (read.inits.map fun earlier => (s.stepAll earlier).screen) ++ close := by
  have ends {s : Session} {lines : List String} {close : String} (fits : close ∈ ["", "\n"])
      (last : s.converse lines = ⟨s.screen ++ close, [], none⟩) :
      (s.converse lines).error = none ∧ ∃ read, read <+: lines ∧ ∃ close ∈ ["", "\n"],
        (s.converse lines).screens =
          String.join (read.inits.map fun earlier => (s.stepAll earlier).screen) ++ close := by
    refine ⟨by rw [last], [], List.nil_prefix, close, fits, ?_⟩
    rw [last]
    simp
  induction lines generalizing s with
  | nil =>
    obtain ⟨v, view⟩ := views []
    rw [stepAll_nil] at view
    cases v with
    | done text => exact ends (.head _) (by simp [converse, view, screen])
    | ask text => exact ends (.tail _ (.head _)) (by simp [converse, view, screen])
  | cons line rest ih =>
    obtain ⟨v, view⟩ := views []
    rw [stepAll_nil] at view
    cases v with
    | done text => exact ends (.head _) (by simp [converse, view, screen])
    | ask text =>
      by_cases leaves : Command.ofLine line = .quit
      · exact ends (.head _) (by simp [converse, view, screen, leaves])
      · obtain ⟨error, read, within, close, fits, screens⟩ := ih fun more => views (line :: more)
        rw [converse_cons view leaves, Transcript.after_error, Transcript.after_screens]
        refine ⟨error, line :: read, List.cons_prefix_cons.mpr ⟨rfl, within⟩, close, fits, ?_⟩
        rw [screens, List.inits_cons, List.map_cons, String.join_cons, stepAll_nil,
          screen_of_view view, List.map_map, String.append_assoc]
        rfl

end Session

end Questionnaire
