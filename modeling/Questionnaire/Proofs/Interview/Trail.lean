import Questionnaire.Proofs.Interview.Turns

/-!
Where a session has been.

Every screen but the first one was answered from another one, so the screens of a session are a tree.
The trail is the way in that tree from the shown screen down to the first one: `trail_iff`. And each
result of the history is that of the answers at the time when it was added: `recorded`.
-/

namespace Questionnaire

/-- Where a relation is a function that ends at a point, there is one way to that point. -/
theorem eq_of_isChain {α : Type} {R : α → α → Prop} {first last : α} {xs ys : List α}
    (functional : ∀ a b c, R a b → R a c → b = c) (stops : ∀ b, ¬R last b)
    (chain : (first :: xs).IsChain R) (ends : (first :: xs).getLast? = some last)
    (chain' : (first :: ys).IsChain R) (ends' : (first :: ys).getLast? = some last) : xs = ys := by
  induction xs generalizing first ys with
  | nil =>
    cases Option.some.inj ends
    cases ys with
    | nil => rfl
    | cons y ys => exact absurd (List.isChain_cons_cons.mp chain').1 (stops y)
  | cons x xs ih =>
    obtain ⟨link, chain⟩ := List.isChain_cons_cons.mp chain
    rw [List.getLast?_cons_cons] at ends
    cases ys with
    | nil =>
      cases Option.some.inj ends'
      exact absurd link (stops x)
    | cons y ys =>
      obtain ⟨link', chain'⟩ := List.isChain_cons_cons.mp chain'
      rw [List.getLast?_cons_cons] at ends'
      cases functional first x y link link'
      rw [ih chain ends chain' ends']

namespace Session

/-- These lines are those up to the one that adds the result of this number. The first result is there
before all lines. -/
def Adds (first : Session) (index : Nat) (lines : List String) : Prop :=
  (first.stepAll lines).history.size = index + 1 ∧
    ∀ before line, lines = before ++ [line] → (first.stepAll before).history.size = index

/-- In a session of these lines one screen was answered from another one: the line that added its result
was given while the other one was shown. -/
def AnsweredFrom (first : Session) (lines : List String) (later earlier : Nat) : Prop :=
  ∃ before line, before ++ [line] <+: lines ∧ first.Adds later (before ++ [line]) ∧
    (first.stepAll before).shown = earlier

variable {m : Model} {config : Config} {first : Session} {lines more others : List String}
  {index later earlier : Nat}

theorem size_pos (began : start m config = .ok first) (lines : List String) :
    0 < (first.stepAll lines).history.size := by
  have grown : first.history.size ≤ (first.stepAll lines).history.size :=
    size_le (List.nil_prefix)
  obtain ⟨r, _, rfl⟩ := start_ok began
  exact Nat.lt_of_lt_of_le Nat.one_pos grown

/-! ### Answered from -/

theorem Adds.unique (adds : first.Adds index more) (adds' : first.Adds index others)
    (within : more <+: lines) (within' : others <+: lines) : more = others := by
  -- past the line that adds the result the history is longer
  have shorter {a b : List String} (adds : first.Adds index a) (adds' : first.Adds index b)
      (further : a <+: b) : a = b := by
    rcases b.eq_nil_or_concat' with rfl | ⟨before, line, rfl⟩
    · exact List.prefix_nil.mp further
    · rcases List.prefix_concat_iff.mp further with same | further
      · exact same
      · have smaller := size_le (s := first) further
        rw [adds.1, adds'.2 before line rfl] at smaller
        exact absurd smaller (Nat.not_succ_le_self index)
  rcases List.prefix_or_prefix_of_prefix within within' with further | further
  · exact shorter adds adds' further
  · exact (shorter adds' adds further).symm

theorem AnsweredFrom.unique {earlier' : Nat} (link : first.AnsweredFrom lines later earlier)
    (link' : first.AnsweredFrom lines later earlier') : earlier = earlier' := by
  obtain ⟨before, line, within, adds, rfl⟩ := link
  obtain ⟨before', line', within', adds', rfl⟩ := link'
  rw [(List.append_inj' (adds.unique adds' within within') rfl).1]

theorem AnsweredFrom.mono (link : first.AnsweredFrom lines later earlier) (further : lines <+: more) :
    first.AnsweredFrom more later earlier := by
  obtain ⟨before, line, within, adds, shown⟩ := link
  exact ⟨before, line, within.trans further, adds, shown⟩

theorem not_answeredFrom_zero (began : start m config = .ok first) :
    ¬first.AnsweredFrom lines 0 earlier := by
  rintro ⟨before, line, _, adds, _⟩
  have filled := size_pos began before
  rw [adds.2 before line rfl] at filled
  exact Nat.lt_irrefl 0 filled

/-! ### The trail -/

theorem adds_concat {line : String} {answers : ParameterStore} {r : Result}
    (same : first.stepAll (lines ++ [line]) = (first.stepAll lines).answered answers r) :
    first.Adds (first.stepAll lines).history.size (lines ++ [line]) := by
  refine ⟨?_, ?_⟩
  · rw [same]
    exact History.size_push _ r
  · intro before line' split
    rw [(List.append_inj' split rfl).1]

theorem trail_isChain (began : start m config = .ok first) (lines : List String) :
    ((first.stepAll lines).shown :: (first.stepAll lines).trail).IsChain (first.AnsweredFrom lines) ∧
      ((first.stepAll lines).shown :: (first.stepAll lines).trail).getLast? = some 0 := by
  induction lines using List.reverseRecOn with
  | nil =>
    obtain ⟨r, _, rfl⟩ := start_ok began
    exact ⟨.singleton 0, rfl⟩
  | append_singleton lines line ih =>
    have further : lines <+: lines ++ [line] := List.prefix_append _ _
    obtain ⟨chain, ends⟩ := ih
    have chain := chain.imp fun _ _ link => AnsweredFrom.mono link further
    rcases first.stepAll_cases lines line with same | ⟨previous, rest, trail, same⟩ |
      ⟨answers, r, _, same⟩
    · rw [same]
      exact ⟨chain, ends⟩
    · -- going back drops the first link
      rw [trail] at chain ends
      rw [same]
      rw [List.getLast?_cons_cons] at ends
      exact ⟨(List.isChain_cons_cons.mp chain).2, ends⟩
    · -- a new result is a new link in front
      have link : first.AnsweredFrom (lines ++ [line]) (first.stepAll lines).history.size
          (first.stepAll lines).shown :=
        ⟨lines, line, List.prefix_rfl, adds_concat same, rfl⟩
      rw [same]
      refine ⟨List.isChain_cons_cons.mpr ⟨link, chain⟩, ?_⟩
      exact List.getLast?_cons_cons.trans ends

/-- The trail is the one chain of screens, each answered from the next, from the shown one to the first
one. -/
theorem trail_iff (began : start m config = .ok first) {chain : List Nat} :
    chain = (first.stepAll lines).trail ↔
      ((first.stepAll lines).shown :: chain).IsChain (first.AnsweredFrom lines) ∧
        ((first.stepAll lines).shown :: chain).getLast? = some 0 := by
  obtain ⟨linked, ends⟩ := trail_isChain began lines
  constructor
  · rintro rfl
    exact ⟨linked, ends⟩
  · rintro ⟨linked', ends'⟩
    have functional (a b c : Nat) (link : first.AnsweredFrom lines a b)
        (link' : first.AnsweredFrom lines a c) : b = c := link.unique link'
    have stops (b : Nat) : ¬first.AnsweredFrom lines 0 b := not_answeredFrom_zero began
    exact eq_of_isChain functional stops linked' ends' linked ends

theorem trail_eq_nil (began : start m config = .ok first) :
    (first.stepAll lines).trail = [] ↔ (first.stepAll lines).shown = 0 := by
  obtain ⟨linked, ends⟩ := trail_isChain began lines
  constructor
  · intro empty
    rw [empty] at ends
    exact Option.some.inj ends
  · intro shown
    cases trail : (first.stepAll lines).trail with
    | nil => rfl
    | cons previous rest =>
      rw [trail, shown] at linked
      exact absurd (List.isChain_cons_cons.mp linked).1 (not_answeredFrom_zero began)

/-! ### The history -/

theorem recorded (began : start m config = .ok first) (lines : List String) {r : Result}
    (there : (first.stepAll lines).history.results[index]? = some r) :
    ∃ more, more <+: lines ∧ first.Adds index more ∧
      m.run config (first.stepAll more).answers = .ok r := by
  induction lines using List.reverseRecOn with
  | nil =>
    obtain ⟨r₀, ran, rfl⟩ := start_ok began
    obtain ⟨rfl, rfl⟩ : index = 0 ∧ r₀ = r := by
      simpa [History.push, History.empty, List.getElem?_singleton] using there
    exact ⟨[], List.prefix_rfl, ⟨rfl, by simp⟩, ran⟩
  | append_singleton lines line ih =>
    have further : lines <+: lines ++ [line] := List.prefix_append _ _
    have earlier (there : (first.stepAll lines).history.results[index]? = some r) :
        ∃ more, more <+: lines ++ [line] ∧ first.Adds index more ∧
          m.run config (first.stepAll more).answers = .ok r := by
      obtain ⟨more, within, adds, ran⟩ := ih there
      exact ⟨more, within.trans further, adds, ran⟩
    rcases first.stepAll_cases lines line with same | ⟨_, _, _, same⟩ | ⟨answers, r', ran, same⟩
    · exact earlier (same ▸ there)
    · exact earlier (by simpa [same, showing] using there)
    · have added : ((first.stepAll lines).history.results ++ [r'])[index]? = some r := by
        simpa [same, answered, History.push] using there
      rw [List.getElem?_append] at added
      split at added
      · exact earlier added
      · rename_i outside
        have latest : index = (first.stepAll lines).history.size ∧ r' = r := by
          rw [List.getElem?_singleton] at added
          split at added
          · rename_i here
            exact ⟨by unfold History.size; omega, Option.some.inj added⟩
          · cases added
        obtain ⟨rfl, rfl⟩ := latest
        refine ⟨_, List.prefix_rfl, adds_concat same, ?_⟩
        rw [same]
        obtain ⟨_, _, rfl⟩ := start_ok began
        exact ran

theorem latest_run (began : start m config = .ok first) (lines : List String) :
    ∃ r, (first.stepAll lines).history.latest? = some r ∧
      m.run config (first.stepAll lines).answers = .ok r := by
  induction lines using List.reverseRecOn with
  | nil =>
    obtain ⟨r, ran, rfl⟩ := start_ok began
    exact ⟨r, rfl, ran⟩
  | append_singleton lines line ih =>
    rcases first.stepAll_cases lines line with same | ⟨_, _, _, same⟩ | ⟨answers, r, ran, same⟩
    · rwa [same]
    · rwa [same]
    · rw [same]
      obtain ⟨_, _, rfl⟩ := start_ok began
      exact ⟨r, List.getLast?_concat, ran⟩

end Session

end Questionnaire
