import Questionnaire.Proofs.Interview.Screens
import Questionnaire.Proofs.Interview.Trail

/-!
What ties the parts of a session together.

Answers, history, shown screen and trail change together, with every line in one of few ways. `Coherent`
says how they belong together after any lines: `session_coherent`.
-/

namespace Questionnaire

/-! ### Lines -/

theorem Command.ofLine_blank {line : String} (blank : Text.trimmed line = "") :
    ofLine line = .nothing := by
  simp only [ofLine, blank]

theorem Command.ofLine_back {line : String} (back : Text.trimmed line = "<") :
    ofLine line = .back := by
  simp [ofLine, back]

namespace Session

/-- A session shows its current result, with the fields filled in from the answers. -/
def Shows (m : Model) (s : Session) : Prop :=
  ∃ target replay, s.current = .ok target ∧
    s.history.display s.shown (s.history.latestIndex?.getD s.shown) = .ok replay ∧
    s.view = .ok (if target.isTerminal then .done target.toText
      else .ask ((s.prompt target).screen replay.parameters ++ "> ")) ∧
    ∀ p ∈ target.questions.parameters.toList,
      m.Prefills s.answers p.name (replay.parameters.get? p.name)

/-- What holds of a session after these lines, if it began with the first run of a model. -/
structure Coherent (m : Model) (config : Config) (first : Session) (lines : List String)
    (s : Session) : Prop where
  recorded : ∀ (index : Nat) (r : Result), s.history.results[index]? = some r →
    ∃ more, more <+: lines ∧ first.Adds index more ∧
      m.run config (first.stepAll more).answers = .ok r
  latest : ∃ r, s.history.latest? = some r ∧ m.run config s.answers = .ok r
  trail : ∀ chain, chain = s.trail ↔ (s.shown :: chain).IsChain (first.AnsweredFrom lines) ∧
    (s.shown :: chain).getLast? = some 0
  back : ∀ line, Text.trimmed line = "<" →
    if s.shown = 0 then s.step (.ofLine line) = (s, some .atFirst)
    else ∃ previous rest, s.trail = previous :: rest ∧ first.AnsweredFrom lines s.shown previous ∧
      s.step (.ofLine line) = (s.showing previous rest, none)
  blank : ∀ line, Text.trimmed line = "" → s.step (.ofLine line) = (s, none)
  unusable : ∀ line text r, Command.ofLine line = .answer text → s.current = .ok r →
    (s.prompt r).readAnswers? r.questions.parameters text = none →
      s.step (.ofLine line) = (s, some .usage)
  failing : ∀ line text r given e, Command.ofLine line = .answer text → s.current = .ok r →
    (s.prompt r).readAnswers? r.questions.parameters text = some given →
      m.run config (s.answers.insertAll given) = .error e →
        s.step (.ofLine line) = (s, some (.failed e))
  answering : ∀ line text r given r', Command.ofLine line = .answer text → s.current = .ok r →
    (s.prompt r).readAnswers? r.questions.parameters text = some given →
      m.run config (s.answers.insertAll given) = .ok r' →
        s.step (.ofLine line) = (s.answered (s.answers.insertAll given) r', none)
  shows : s.Shows m

variable {m : Model} {config : Config} {first s : Session} {lines : List String} {line text : String}
  {r : Result}

theorem step_unusable (command : Command.ofLine line = .answer text) (current : s.current = .ok r)
    (unread : (s.prompt r).readAnswers? r.questions.parameters text = none) :
    s.step (.ofLine line) = (s, some .usage) := by
  simp only [command, step, current, unread]

theorem step_failing {given : List Parameter} {e : RunError}
    (command : Command.ofLine line = .answer text) (current : s.current = .ok r)
    (read : (s.prompt r).readAnswers? r.questions.parameters text = some given)
    (failed : s.model.run s.config (s.answers.insertAll given) = .error e) :
    s.step (.ofLine line) = (s, some (.failed e)) := by
  simp only [command, step, current, read, submit, failed]

theorem step_answering {given : List Parameter} {r' : Result}
    (command : Command.ofLine line = .answer text) (current : s.current = .ok r)
    (read : (s.prompt r).readAnswers? r.questions.parameters text = some given)
    (ran : s.model.run s.config (s.answers.insertAll given) = .ok r') :
    s.step (.ofLine line) = (s.answered (s.answers.insertAll given) r', none) := by
  simp only [command, step, current, read, submit, ran, answered]

theorem stepAll_start (began : start m config = .ok first) (lines : List String) :
    (first.stepAll lines).model = m ∧ (first.stepAll lines).config = config := by
  obtain ⟨_, _, rfl⟩ := start_ok began
  exact stepAll_model _ lines

theorem shows_stepAll (wellFormed : m.WellFormed) (began : start m config = .ok first)
    (lines : List String) :
    (first.stepAll lines).Shows m := by
  have inside : first.Inside := by
    obtain ⟨_, _, rfl⟩ := start_ok began
    intro index member
    rw [List.mem_singleton.mp member]
    exact Nat.one_pos
  have here := inside_stepAll inside lines _ List.mem_cons_self
  have there := List.getElem?_eq_getElem here
  obtain ⟨latest, last, ran⟩ := latest_run began lines
  obtain ⟨_, _, _, shown⟩ := recorded began lines there
  obtain ⟨current, display, view⟩ := view_eq there last
  refine ⟨_, _, current, display, view, ?_⟩
  intro p asked
  exact wellFormed.prefills shown ran (List.mem_map_of_mem asked)

theorem back_stepAll (began : start m config = .ok first) (back : Text.trimmed line = "<") :
    if (first.stepAll lines).shown = 0 then
      (first.stepAll lines).step (.ofLine line) = (first.stepAll lines, some .atFirst)
    else ∃ previous rest, (first.stepAll lines).trail = previous :: rest ∧
      first.AnsweredFrom lines (first.stepAll lines).shown previous ∧
      (first.stepAll lines).step (.ofLine line) =
        ((first.stepAll lines).showing previous rest, none) := by
  rw [Command.ofLine_back back, step]
  split
  · rename_i shown
    rw [(trail_eq_nil began).mpr shown]
  · rename_i shown
    cases trail : (first.stepAll lines).trail with
    | nil => exact absurd ((trail_eq_nil began).mp trail) shown
    | cons previous rest =>
      obtain ⟨chain, _⟩ := trail_isChain began lines
      rw [trail] at chain
      exact ⟨previous, rest, rfl, (List.isChain_cons_cons.mp chain).1, rfl⟩

/-- After every sequence of lines the answers, the history, the shown screen and the trail of a session
belong together. The transcript of the session holds its screens in their order, and no interview about
the script ends because a result is missing. -/
theorem session_coherent {text : String} (compiled : Model.ofText text = .ok m)
    (began : start m config = .ok first) :
    (∀ lines, Coherent m config first lines (first.stepAll lines)) ∧
      (∀ lines, ∃ read, read <+: lines ∧ ∃ close ∈ ["", "\n"],
        (first.converse lines).screens =
          String.join (read.inits.map fun earlier => (first.stepAll earlier).screen) ++ close) ∧
      ∀ input, (interview config text input).error = none := by
  have shows := shows_stepAll (Model.wellFormed_of_text compiled) began
  have views (lines : List String) : ∃ v, (first.stepAll lines).view = .ok v := by
    obtain ⟨_, _, _, _, view, _⟩ := shows lines
    exact ⟨_, view⟩
  refine ⟨?_, fun lines => (converse_screens views lines).2, ?_⟩
  · intro lines
    obtain ⟨model, configured⟩ := stepAll_start began lines
    refine {
      recorded := fun _ _ => recorded began lines
      latest := latest_run began lines
      trail := fun _ => trail_iff began
      back := fun _ => back_stepAll began
      blank := ?_
      unusable := fun _ _ _ => step_unusable
      failing := ?_
      answering := ?_
      shows := shows lines }
    · intro line blank
      rw [Command.ofLine_blank blank, step]
    · intro line text r given e command current read failed
      exact step_failing command current read (by rwa [model, configured])
    · intro line text r given r' command current read ran
      exact step_answering command current read (by rwa [model, configured])
  · intro input
    have made : Session.ofScript config text = .ok first := by
      -- the equation of the definition would take long to make
      delta Session.ofScript
      simp only [compiled, began]
      rfl
    delta interview
    rw [made]
    exact (converse_screens views _).1

/-- Lines of an interview about a home: it goes back and picks the other option, then it has two lines that
do not count. -/
def homeLines : List String := ["huur", "<", "koop", "veel geld", "inkomen=veel", "800", " < "]

theorem session_coherent_home :
    ∃ first, Model.ofText Model.homeScript = .ok Model.homeModel ∧ start Model.homeModel {} = .ok first ∧
      Coherent Model.homeModel {} first homeLines (first.stepAll homeLines) ∧
      (first.stepAll homeLines).shown = 2 ∧ (first.stepAll homeLines).trail = [0] ∧
      (first.stepAll homeLines).history.size = 4 := by
  have played : ((start Model.homeModel {}).toOption.map fun first =>
      ((first.stepAll homeLines).shown, (first.stepAll homeLines).trail,
        (first.stepAll homeLines).history.size)) = some (2, [0], 4) := by decide
  obtain ⟨first, began, state⟩ := ok_of_map_toOption played
  simp only [Prod.mk.injEq] at state
  obtain ⟨coherent, _⟩ := session_coherent Model.ofText_homeScript began
  exact ⟨first, Model.ofText_homeScript, began, coherent homeLines, state⟩

end Session

end Questionnaire
