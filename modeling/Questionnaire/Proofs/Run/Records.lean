import Questionnaire.Proofs.Parameter.Records
import Questionnaire.Proofs.Run.Asking
import Questionnaire.Proofs.Run.Monotone
import Questionnaire.Run.Result

/-!
Results that are written as documents and read again.

Answers that are read declare the types of their values, and so do the values that a run derives, so a
run knows honest parameters only, and what it asks for is a list or nothing. Such a result comes back from
its document as a result that cannot be told apart from it, numbers compared as numbers:
`run_survives`.
-/

namespace Questionnaire

/-! ### Documents -/

theorem Json.readStrings_ofStrings (items : List String) :
    readStrings (ofStrings items) = .ok items := by
  have read : ∀ s ∈ items, readString? (.string s) = .ok (id s) := fun _ _ => rfl
  have strings := readList_map read
  rwa [List.map_id] at strings

theorem Visited.ofJson_toJson (v : Visited) : ofJson v.toJson = .ok v := by
  have used := Json.readStrings_ofStrings v.used
  unfold toJson
  split
  · rename_i nothing
    refine (Json.readRecord_object (by simp) ?_).trans ?_
    · simp [Json.readString?, Except.map]
    · simp [Json.Fields.required, Json.Fields.optional, Json.Fields.get?, Json.readString?,
        Bind.bind, Except.bind, pure, Except.pure, ← List.isEmpty_iff.mp nothing]
  · refine (Json.readRecord_object (by simp) ?_).trans ?_
    · simp [Json.readString?, used, Except.map]
    · simp [Json.Fields.required, Json.Fields.optional, Json.Fields.get?, Json.readString?, used,
        Bind.bind, Except.bind, pure, Except.pure]

namespace Batch

def normalize (b : Batch) : Batch := { b with parameters := b.parameters.normalize }

theorem ofJson_toJson {b : Batch} (honest : ∀ p ∈ b.parameters.toList, p.Honest)
    (writable : ∀ p ∈ b.parameters.toList, p.value.Writable) : ofJson b.toJson = .ok b.normalize := by
  have read := ParameterStore.ofJson_toJson honest writable
  refine (Json.readRecord_object (by simp) ?_).trans ?_
  · simp [Json.readString?, read, Except.map]
  · simp [Json.Fields.required, Json.Fields.get?, Json.readString?, read, Bind.bind, Except.bind,
      pure, Except.pure, normalize]

end Batch

namespace Result

variable {r : Result}

def normalize (r : Result) : Result :=
  { r with questions := r.questions.normalize, parameters := r.parameters.normalize }

/-- A result of honest parameters with values whose texts show all of them. -/
structure Documented (r : Result) : Prop where
  questions : ∀ p ∈ r.questions.parameters.toList, p.Honest ∧ p.value.Writable
  parameters : ∀ p ∈ r.parameters.toList, p.Honest ∧ p.value.Writable

/-- Two results that cannot be told apart, numbers compared as numbers: the same step asks for the same
parameters, the same is known in the same order, and the same steps were visited up to the same end. -/
structure Alike (r r' : Result) : Prop where
  label : r'.questions.label = r.questions.label
  questions : List.Forall₂ Parameter.Alike r.questions.parameters.toList
    r'.questions.parameters.toList
  parameters : List.Forall₂ Parameter.Alike r.parameters.toList r'.parameters.toList
  trace : r'.trace = r.trace
  outcome : r'.outcome = r.outcome

theorem alike_normalize (r : Result) : r.Alike r.normalize where
  label := rfl
  questions := r.questions.parameters.alike_normalize
  parameters := r.parameters.alike_normalize
  trace := rfl
  outcome := rfl

theorem ofJson_toJson (documented : r.Documented) : ofJson r.toJson = .ok r.normalize := by
  have questions := Batch.ofJson_toJson (fun p member => (documented.questions p member).1)
    fun p member => (documented.questions p member).2
  have parameters := ParameterStore.ofJson_toJson
    (fun p member => (documented.parameters p member).1)
    fun p member => (documented.parameters p member).2
  have trace : Json.readList Visited.ofJson (.array (r.trace.map Visited.toJson)) = .ok r.trace := by
    have read : Json.readList Visited.ofJson _ = .ok (r.trace.map id) :=
      Json.readList_map fun v _ => v.ofJson_toJson
    rwa [List.map_id] at read
  unfold toJson
  cases outcome : r.outcome with
  | none =>
    refine (Json.readRecord_object (by simp) ?_).trans ?_
    · simp [questions, parameters, trace, Except.map]
    · simp [Json.Fields.required, Json.Fields.optional, Json.Fields.get?, questions, parameters,
        trace, Bind.bind, Except.bind, pure, Except.pure, normalize, outcome]
  | some outcome =>
    refine (Json.readRecord_object (by simp) ?_).trans ?_
    · simp [questions, parameters, trace, Except.map, Json.readOptionalString, Json.readString?]
    · simp [Json.Fields.required, Json.Fields.optional, Json.Fields.get?, questions, parameters,
        trace, Bind.bind, Except.bind, pure, Except.pure, normalize, outcome,
        Json.readOptionalString, Json.readString?, Except.map]

end Result

namespace Model

variable {m : Model} {strict : Bool} {answers known : ParameterStore} {n index : Nat} {w w' : Walk}
  {target target' : Target} {s q : Step} {v : Visit} {r : Result}

/-! ### Honest parameters -/

theorem honest_insert {p : Parameter} (before : ∀ q ∈ known.toList, q.Honest) (honest : p.Honest) :
    ∀ q ∈ (known.insert p).toList, q.Honest := by
  intro q member
  rcases ParameterStore.mem_insert member with rfl | old
  · exact honest
  · exact before q old

theorem honest_of_normalize (read : answers.IsRead)
    (normal : m.normalize strict answers = .ok known) : ∀ p ∈ known.toList, p.Honest := by
  refine normalize_induction (P := fun known => ∀ p ∈ known.toList, p.Honest) (by simp) ?_ normal
  intro known answer after listed before accepted
  rcases acceptAnswer_ok accepted with rfl | ⟨_, p, rfl, written, _⟩
  · exact before
  · rcases written with rfl | ⟨v, rfl⟩
    · exact honest_insert before (read _ listed).honest
    · exact honest_insert before (Parameter.honest_ofValue _ v)

theorem Round.honest (wellFormed : m.WellFormed) (consistent : m.Consistent w.known)
    (round : m.Round w index s v target) (before : ∀ p ∈ w.known.toList, p.Honest) :
    ∀ p ∈ (w.record index s v).known.toList, p.Honest := by
  rcases round.writes wellFormed consistent with ⟨same, _⟩ | ⟨p, writes, written, _⟩
  · rwa [same]
  · obtain ⟨_, _, _, _, _, value, _, _, _, _, given⟩ := writes.derived
    rw [written, given]
    exact honest_insert before (Parameter.honest_ofValue _ value)

theorem Rounds.honest (wellFormed : m.WellFormed) (rounds : m.Rounds n w target w' target')
    (consistent : m.Consistent w.known) (before : ∀ p ∈ w.known.toList, p.Honest) :
    ∀ p ∈ w'.known.toList, p.Honest := by
  induction rounds with
  | nil => exact before
  | cons round rest ih =>
    exact ih (round.consistent wellFormed consistent)
      (round.honest wellFormed consistent before)

/-- A question is a list of labels or nothing at all. -/
theorem WellFormed.batch_documented (wellFormed : m.WellFormed) (step : q ∈ m.steps) :
    ∀ p ∈ (q.batch known).parameters.toList, p.Honest ∧ p.value.Writable := by
  rw [wellFormed.batch_toList step]
  intro p member
  obtain ⟨asked, _, rfl⟩ := List.mem_map.mp member
  refine ⟨Parameter.honest_question _ _ _, ?_⟩
  show (Value.ofItems asked.options).Writable
  cases asked.options <;> trivial

/-- The result of a run on answers that are read comes back from its document. -/
theorem run_survives {text : String} {config : Config} (compiled : Model.ofText text = .ok m)
    (read : answers.IsRead) (ran : m.run config answers = .ok r)
    (writable : ∀ p ∈ r.parameters.toList, p.value.Writable) :
    ∃ r', Result.ofJson r.toJson = .ok r' ∧ r.Alike r' := by
  have wellFormed := wellFormed_of_text compiled
  obtain ⟨known, n, w, target, normal, rounds, ends⟩ := wellFormed.run_ends ran
  have honest := rounds.honest wellFormed (wellFormed.start_consistent normal)
    (honest_of_normalize read normal)
  have documented : r.Documented := by
    cases ends with
    | finished outcome =>
      exact ⟨List.forall_mem_nil _, fun p member => ⟨honest p member, writable p member⟩⟩
    | halted found visited asks there asksMore =>
      exact ⟨wellFormed.batch_documented (List.mem_of_getElem? there),
        fun p member => ⟨honest p member, writable p member⟩⟩
  exact ⟨r.normalize, Result.ofJson_toJson documented, r.alike_normalize⟩

/-- A rented home, an income that is written with a comma, and what the script does not ask for. -/
def lease : Json :=
  .array [.object [("name", .string "huur"), ("value", .string "ja")],
    .object [("name", .string "inkomen"), ("value", .string "800,50")],
    .object [("name", .string "sinds"), ("value", .string "2020-01-01 08:30")],
    .object [("name", .string "termijn"), ("value", .string "-1.02:00")],
    .object [("name", .string "looptijd"), ("value", .string "2020-01-01/2020-12-31")],
    .object [("name", .string "nummer"), ("type", .string "String"), ("value", .string "01234")],
    .object [("name", .string "wensen"), ("type", .string "List"),
      ("value", .array [.string "tuin", .string "balkon"])]]

theorem run_survives_lease :
    Model.ofText homeScript = .ok homeModel ∧
      ∃ answers r, ParameterStore.ofAnswers lease = .ok answers ∧ answers.IsRead ∧
        homeModel.run {} answers = .ok r ∧ (∀ p ∈ r.parameters.toList, p.value.Writable) ∧
        ∃ r', Result.ofJson r.toJson = .ok r' ∧ r.Alike r' := by
  have runs : (ParameterStore.ofAnswers lease).toOption.map (fun answers =>
      (homeModel.run {} answers).toOption.map fun r =>
        decide (∀ p ∈ r.parameters.toList, p.value.Writable)) = some (some true) := by
    decide
  obtain ⟨answers, given, runs⟩ := ok_of_map_toOption runs
  obtain ⟨r, ran, writable⟩ := ok_of_map_toOption runs
  have read := ParameterStore.isRead_ofAnswers given
  have writable := of_decide_eq_true writable
  exact ⟨ofText_homeScript, answers, r, given, read, ran, writable,
    run_survives ofText_homeScript read ran writable⟩

end Model

end Questionnaire
