import Mathlib.Data.List.Range
import Questionnaire.Proofs.Answers.Taken
import Questionnaire.Proofs.Run.Unanswered

/-!
Sessions that make progress.

What a run asks for is a question that its answers leave open: `WellFormed.asked_open`. A reply gives a
value to one of these and takes none away, so the open questions become fewer with every reply, and a
session is over after as many screens as the model has questions: `session_progress`.
-/

namespace Questionnaire

namespace ParameterStore

variable {store : ParameterStore} {given : List Parameter} {name : String}

theorem isKnown_insert (store : ParameterStore) (p : Parameter) (name : String) :
    (store.insert p).isKnown name =
      if p.name = name then !p.value.isUnknown else store.isKnown name := by
  by_cases same : p.name = name
  · rw [if_pos same, ← same, isKnown, value_insert_self]
  · rw [if_neg same, isKnown_insert_of_ne (Ne.symm same)]

theorem isKnown_insertAll (valued : ∀ p ∈ given, p.value.isUnknown = false) :
    (store.insertAll given).isKnown name = true ↔
      store.isKnown name = true ∨ ∃ p ∈ given, p.name = name := by
  induction given generalizing store with
  | nil => simp [insertAll]
  | cons first rest ih =>
    rw [List.forall_mem_cons] at valued
    have written : (store.insertAll (first :: rest)) = (store.insert first).insertAll rest := rfl
    rw [written, ih valued.2, isKnown_insert, valued.1]
    by_cases same : first.name = name
    · simp [same]
    · simp [same]

end ParameterStore

/-- A chain is no longer than a measure allows that each of its links lowers. -/
theorem length_le_of_isChain {α : Type} {R : α → α → Prop} (measure : α → Nat) {first : α}
    {rest : List α} (lowers : ∀ a b, R a b → measure b < measure a)
    (chain : (first :: rest).IsChain R) : (first :: rest).length ≤ measure first + 1 := by
  induction rest generalizing first with
  | nil => simp
  | cons next rest ih =>
    obtain ⟨link, later⟩ := List.isChain_cons_cons.mp chain
    have lower := lowers first next link
    have within : (next :: rest).length ≤ measure next + 1 := ih later
    rw [List.length_cons]
    omega

namespace Model

/-- The names of the questions that these answers leave open. -/
def openNames (m : Model) (answers : ParameterStore) : List String :=
  (m.questions.map (·.2.name)).filter fun name => !answers.isKnown name

/-- A run on these answers halts. -/
def Halts (m : Model) (config : Config) (answers : ParameterStore) : Prop :=
  ∃ r, m.run config answers = .ok r ∧ r.isTerminal = false

/-- Answers with further values, one of which at least is for a name that the run on them asks for. -/
def Replies (m : Model) (config : Config) (before after : ParameterStore) : Prop :=
  ∃ (r : Result) (given : List Parameter), m.run config before = .ok r ∧ r.isTerminal = false ∧
    after = before.insertAll given ∧ (∀ p ∈ given, p.value.isUnknown = false) ∧
    ∃ p ∈ given, p.name ∈ r.questions.parameters.names

variable {m : Model} {config : Config} {answers before after : ParameterStore}
  {s : Step} {q : AskedParameter} {r : Result} {name : String}

theorem mem_openNames : name ∈ m.openNames answers ↔
    (∃ s ∈ m.steps, ∃ q ∈ s.asked, q.name = name) ∧ answers.isKnown name = false := by
  simp only [openNames, questions, List.mem_filter, List.map_flatMap, List.map_map, List.mem_flatMap,
    List.mem_map, Function.comp_apply, Bool.not_eq_true']

theorem openNames_length_le : (m.openNames answers).length ≤ m.questions.length := by
  calc (m.openNames answers).length
    _ ≤ (m.questions.map (·.2.name)).length := List.length_filter_le _ _
    _ = m.questions.length := List.length_map _

/-! ### What is asked -/

/-- What a result knows of a question is its answer. -/
theorem WellFormed.get?_result (wellFormed : m.WellFormed) (ran : m.run config answers = .ok r)
    (step : s ∈ m.steps) (asked : q ∈ s.asked) :
    if answers.isKnown q.name then
      ∃ v, (answers.value q.name).coerce? q.valueType = some v ∧
        r.parameters.get? q.name = some (.ofValue q.name v)
    else r.parameters.get? q.name = none := by
  obtain ⟨known, n, w, target, normal, rounds, ends⟩ := wellFormed.run_ends ran
  obtain ⟨writes, appends, _⟩ := rounds.writes_once wellFormed (wellFormed.start_consistent normal)
  have start : r.parameters.get? q.name = (answers.get? q.name).bind (m.taken? config.strictAnswers) :=
    calc r.parameters.get? q.name
      _ = w.known.get? q.name := by rw [ends.parameters]
      _ = known.get? q.name := appends.get?_eq (wellFormed.asked_not_derived step asked)
      _ = (answers.get? q.name).bind (m.taken? config.strictAnswers) := get?_normalize normal q.name
  rw [start, ParameterStore.isKnown, ParameterStore.value]
  cases found : answers.get? q.name with
  | none => rfl
  | some answer =>
    obtain ⟨member, named⟩ := ParameterStore.get?_eq_some.mp found
    cases given : answer.value.isUnknown with
    | true =>
      have leftOut : m.taken? config.strictAnswers answer = none :=
        (taken?_of_leftOut fun _ => acceptAnswer_of_unknown given).2
      simpa [given] using leftOut
    | false =>
      have accepts := (normalize_ok_iff.mp normal).1 answer member
      obtain ⟨v, coerced, _, taken⟩ := wellFormed.taken?_asked step asked named given accepts
      simpa [given, taken] using ⟨v, coerced, rfl⟩

/-- What a run asks for is left open by the answers that it was given. -/
theorem WellFormed.asked_open (wellFormed : m.WellFormed) (ran : m.run config answers = .ok r)
    (asked : name ∈ r.questions.parameters.names) : name ∈ m.openNames answers := by
  obtain ⟨_, n, w, target, _, rounds, ends⟩ := wellFormed.run_ends ran
  cases ends with
  | finished outcome => cases asked
  | @halted index question s q v found visited asks there asksMore =>
    have step := List.mem_of_getElem? there
    have listed : name ∈ ((q.batch w.known).parameters.toList.map (·.name)) := asked
    rw [wellFormed.batch_toList step, List.map_map] at listed
    obtain ⟨p, member, named⟩ := List.mem_map.mp listed
    obtain ⟨member, unknown⟩ := List.mem_filter.mp member
    have named : p.name = name := named
    subst named
    refine mem_openNames.mpr ⟨⟨q, step, p, member, rfl⟩, ?_⟩
    -- an answer would be known where the run halts
    rw [Bool.eq_false_iff]
    intro here
    have result := wellFormed.get?_result ran step member
    rw [if_pos here] at result
    obtain ⟨v, coerced, written⟩ := result
    have valued := Value.coerce?_known (by simpa [ParameterStore.isKnown] using here) coerced
    have known : w.known.isKnown p.name = true :=
      ParameterStore.isKnown_of_mem (ParameterStore.get?_eq_some.mp written).1 valued
    rw [known] at unknown
    cases unknown

/-! ### Replies -/

theorem WellFormed.openNames_lt (wellFormed : m.WellFormed) (replies : m.Replies config before after) :
    (m.openNames after).length < (m.openNames before).length := by
  obtain ⟨r, given, ran, _, rfl, valued, p, member, asked⟩ := replies
  have open_ := wellFormed.asked_open ran asked
  have fewer : m.openNames (before.insertAll given) =
      (m.openNames before).filter fun name => !(before.insertAll given).isKnown name := by
    rw [openNames, openNames, List.filter_filter]
    refine List.filter_congr fun name _ => ?_
    cases still : (before.insertAll given).isKnown name with
    | true => rfl
    | false =>
      have unknown : before.isKnown name = false := by
        rw [Bool.eq_false_iff]
        intro here
        have later := (ParameterStore.isKnown_insertAll valued).mpr (Or.inl here)
        exact Bool.false_ne_true (still.symm.trans later)
      rw [unknown]
      rfl
  rw [fewer]
  refine List.length_filter_lt_length_iff_exists.mpr ⟨p.name, open_, ?_⟩
  have answered : (before.insertAll given).isKnown p.name = true :=
    (ParameterStore.isKnown_insertAll valued).mpr (Or.inr ⟨p, member, rfl⟩)
  simp [answered]

theorem WellFormed.replies_length_le (wellFormed : m.WellFormed) {visits : List ParameterStore}
    (chain : visits.IsChain (m.Replies config)) : visits.length ≤ m.questions.length + 1 := by
  cases visits with
  | nil => exact Nat.zero_le _
  | cons first rest =>
    have within := length_le_of_isChain (fun answers => (m.openNames answers).length)
      (fun _ _ => wellFormed.openNames_lt) chain
    have bound : (m.openNames first).length ≤ m.questions.length := openNames_length_le
    omega

/-- Every session makes progress. Answers each of which replies to what the one before is asked for
are at most one more than there are questions. So whoever keeps to answer what is asked comes to an end
or to an error after at most as many screens as there are questions. -/
theorem session_progress {text : String} (compiled : Model.ofText text = .ok m) (config : Config) :
    (∀ visits : List ParameterStore, visits.IsChain (m.Replies config) →
      visits.length ≤ m.questions.length + 1) ∧
    ∀ visits : Nat → ParameterStore,
      (∀ k, m.Halts config (visits k) → m.Replies config (visits k) (visits (k + 1))) →
      ∃ k ≤ m.questions.length, (∃ e, m.run config (visits k) = .error e) ∨
        ∃ r, m.run config (visits k) = .ok r ∧ r.isTerminal = true := by
  have wellFormed := wellFormed_of_text compiled
  refine ⟨fun visits => wellFormed.replies_length_le, ?_⟩
  intro visits replies
  by_contra endless
  have halts : ∀ k ≤ m.questions.length, m.Halts config (visits k) := by
    intro k within
    cases ran : m.run config (visits k) with
    | error e => exact absurd ⟨k, within, Or.inl ⟨e, ran⟩⟩ endless
    | ok r =>
      refine ⟨r, ran, ?_⟩
      rw [Bool.eq_false_iff]
      intro terminal
      exact endless ⟨k, within, Or.inr ⟨r, ran, terminal⟩⟩
  have chain : ((List.range (m.questions.length + 2)).map visits).IsChain (m.Replies config) := by
    rw [List.isChain_map, List.isChain_range]
    intro k within
    exact replies k (halts k (by omega))
  have bound := wellFormed.replies_length_le chain
  rw [List.length_map, List.length_range] at bound
  omega

/-- A session about a rented home: what is known before each of its runs. -/
def homeVisits : List ParameterStore :=
  [.empty, .ofList [.ofValue "huur" (.boolean true)],
    .ofList [.ofValue "huur" (.boolean true), .ofValue "koop" (.boolean false)],
    .ofList [.ofValue "huur" (.boolean true), .ofValue "koop" (.boolean false),
      .ofValue "inkomen" (.number ((Decimal.ofInt? 800).getD .zero))]]

theorem session_progress_home :
    Model.ofText homeScript = .ok homeModel ∧ homeVisits.IsChain (homeModel.Replies {}) ∧
      homeVisits.length = homeModel.questions.length + 1 := by
  have reply {before : ParameterStore} {p : Parameter} (asked : List String)
      (asks : ((homeModel.run {} before).toOption.map fun r =>
        (r.isTerminal, r.questions.parameters.names)) = some (false, asked))
      (valued : p.value.isUnknown = false) (member : p.name ∈ asked) :
      homeModel.Replies {} before (before.insertAll [p]) := by
    obtain ⟨r, ran, same⟩ := ok_of_map_toOption asks
    obtain ⟨halted, names⟩ := Prod.mk.inj same
    exact ⟨r, [p], ran, halted, rfl, by simpa using valued, p, List.mem_singleton.mpr rfl,
      names ▸ member⟩
  have chain : homeVisits.IsChain (homeModel.Replies {}) := by
    refine .cons_cons (reply ["huur", "koop"] (by decide) rfl (by decide)) ?_
    refine .cons_cons (reply ["koop"] (by decide) rfl (by decide)) ?_
    refine .cons_cons (reply ["inkomen"] (by decide) rfl (by decide)) ?_
    exact .singleton _
  have within := (session_progress ofText_homeScript {}).1 homeVisits chain
  exact ⟨ofText_homeScript, chain, Nat.le_antisymm within (by decide)⟩

end Model

end Questionnaire
