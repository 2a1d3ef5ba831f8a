import Questionnaire.Proofs.Answers.Taken
import Questionnaire.Proofs.Model.Integrity
import Questionnaire.Proofs.Run.Resubmission

/-!
Answers in any order.

A run asks what is known for single names only, so it cannot tell two stores apart that hold the same
parameters: `visit_congr_entries`, and with it `walk_mirrors`. Answers without a value and answers for
names that are computed are left out from the start. So a run depends on its answers as on a finite map
of those that count: `run_unordered`.
-/

namespace Questionnaire

/-- Two stores hold the same parameters, in whatever order. -/
def ParameterStore.SameEntries (left right : ParameterStore) : Prop :=
  ∀ name, left.get? name = right.get? name

/-- Two results that differ at most in the order of what they know. -/
structure Result.Mirrors (r r' : Result) : Prop where
  questions : r.questions = r'.questions
  trace : r.trace = r'.trace
  outcome : r.outcome = r'.outcome
  parameters : r.parameters.toList.Perm r'.parameters.toList

/-- Two runs come to the same: they fail alike, or their results mirror each other. -/
inductive Mirrored : Except RunError Result → Except RunError Result → Prop
  | error (e : RunError) : Mirrored (.error e) (.error e)
  | ok {r r' : Result} (mirrors : r.Mirrors r') : Mirrored (.ok r) (.ok r')

/-- Two points of runs that differ at most in the order of what is known there. -/
structure Walk.Mirrors (w u : Walk) : Prop where
  known : w.known.SameEntries u.known
  version : w.version = u.version
  seen : w.seen = u.seen
  trace : w.trace = u.trace

namespace ParameterStore

variable {left right : ParameterStore} {p : Parameter} {name : String}

theorem nodup_toList (store : ParameterStore) : store.toList.Nodup :=
  List.Nodup.of_map _ store.distinct

theorem sameEntries_iff : left.SameEntries right ↔ left.toList.Perm right.toList := by
  rw [List.perm_ext_iff_of_nodup left.nodup_toList right.nodup_toList]
  constructor
  · intro same p
    rw [← and_true (p ∈ left.toList), ← and_true (p ∈ right.toList), ← eq_self p.name,
      ← get?_eq_some, ← get?_eq_some, same]
  · intro same name
    ext p
    rw [get?_eq_some, get?_eq_some, same]

namespace SameEntries

theorem value (same : left.SameEntries right) : left.value = right.value := by
  funext name
  rw [ParameterStore.value, ParameterStore.value, same name]

theorem isKnown (same : left.SameEntries right) : left.isKnown = right.isKnown := by
  funext name
  rw [ParameterStore.isKnown, ParameterStore.isKnown, same.value]

theorem insert (same : left.SameEntries right) :
    (left.insert p).SameEntries (right.insert p) := by
  intro name
  rw [get?_insert, get?_insert, same name]

end SameEntries

end ParameterStore

theorem Walk.Mirrors.record {w u : Walk} {index : Nat} {s : Step} (mirrors : w.Mirrors u)
    (v : Visit) : (w.record index s v).Mirrors (u.record index s v) := by
  refine ⟨?_, ?_, ?_, ?_⟩
  · cases written : v.derived with
    | none => simpa only [Walk.record, written] using mirrors.known
    | some p => simpa only [Walk.record, written] using mirrors.known.insert
  · simp only [Walk.record, mirrors.version]
  · simp only [Walk.record_seen, mirrors.version, mirrors.seen]
  · simp only [Walk.record_trace, mirrors.trace]

namespace Model

variable {m : Model} {left right known known' : ParameterStore} {s : Step} {index : Nat}
  {w u : Walk} {target : Target} {config : Config} {answers others : ParameterStore}

/-! ### Visits -/

theorem scope_congr_entries (same : left.SameEntries right) : m.scope left = m.scope right := by
  funext name
  unfold scope isClosedOption
  rw [same.isKnown, same.value]

theorem questionFor_congr_entries (same : left.SameEntries right) (fallback : Option Nat)
    (name : String) : m.questionFor left s fallback name = m.questionFor right s fallback name := by
  simp only [questionFor, Step.hasOpen, same.isKnown]

theorem flowOfError_congr_entries (same : left.SameEntries right) (fallback : Option Nat) :
    m.flowOfError left s fallback = m.flowOfError right s fallback := by
  funext e
  cases e with
  | missing name => simp only [flowOfError, questionFor_congr_entries same]
  | _ => rfl

theorem flowOfGate_congr_entries (same : left.SameEntries right) (onTrue onFalse : Target)
    (fallback : Option Nat) :
    m.flowOfGate left s onTrue onFalse fallback = m.flowOfGate right s onTrue onFalse fallback := by
  funext value
  simp only [flowOfGate, flowOfError_congr_entries same]

theorem derive_congr_entries (same : left.SameEntries right) (name : String) (type : AnswerType) :
    derive left s name type = derive right s name type := by
  funext value
  simp only [derive, same name]

theorem visit_congr_entries (same : left.SameEntries right) :
    m.visit left index s = m.visit right index s := by
  have answered : s.isAnswered left = s.isAnswered right := by
    simp only [Step.isAnswered, same.isKnown]
  simp only [visit, answered, scope_congr_entries same, flowOfError_congr_entries same,
    flowOfGate_congr_entries same, derive_congr_entries same]

theorem batch_congr_entries (same : left.SameEntries right) : s.batch left = s.batch right := by
  simp only [Step.batch, same.isKnown]

/-! ### Runs -/

/-- Where one run stops, a run that mirrors it stops as well. -/
theorem Stops.mirrored {outcome : Except RunError Result} (stops : m.Stops w target outcome)
    (mirrors : w.Mirrors u) : ∃ outcome', m.Stops u target outcome' ∧ Mirrored outcome outcome' := by
  have parameters := ParameterStore.sameEntries_iff.mp mirrors.known
  cases stops with
  | finished outcome => exact ⟨_, .finished outcome, .ok ⟨rfl, mirrors.trace, rfl, parameters⟩⟩
  | lost missing => exact ⟨_, .lost missing, .ok ⟨rfl, mirrors.trace, rfl, parameters⟩⟩
  | cyclic found seen =>
    rw [mirrors.version, mirrors.seen] at seen
    exact ⟨_, .cyclic found seen, .error _⟩
  | failed found fresh failed =>
    rw [mirrors.version, mirrors.seen] at fresh
    rw [visit_congr_entries mirrors.known] at failed
    exact ⟨_, .failed found fresh failed, .error _⟩
  | @halted index question s v found fresh visited asks =>
    rw [mirrors.version, mirrors.seen] at fresh
    rw [visit_congr_entries mirrors.known] at visited
    refine ⟨_, .halted found fresh visited asks, .ok ?_⟩
    have after : (w.record index s v).Mirrors (u.record index s v) := mirrors.record v
    have batches : ∀ q : Step, q.batch (v.after w.known) = q.batch (v.after u.known) :=
      fun q => batch_congr_entries after.known
    refine ⟨?_, after.trace, rfl, ParameterStore.sameEntries_iff.mp after.known⟩
    simp only [Walk.halt, batches]

theorem walk_mirrors (limit left : Nat) (mirrors : w.Mirrors u) :
    Mirrored (m.walk limit left w target) (m.walk limit left u target) := by
  induction left generalizing w u target with
  | zero =>
    cases target with
    | finish outcome =>
      have parameters := ParameterStore.sameEntries_iff.mp mirrors.known
      rw [walk_finish, walk_finish]
      exact .ok ⟨rfl, mirrors.trace, rfl, parameters⟩
    | step index => exact .error _
  | succ left ih =>
    rcases round_or_stops m w target with ⟨index, s, v, next, rfl, round⟩ | ⟨outcome, stops⟩
    · have fresh := round.fresh
      rw [mirrors.version, mirrors.seen] at fresh
      have visited : m.visit u.known index s = .ok v := by
        rw [← visit_congr_entries mirrors.known]
        exact round.visited
      have mirrored : m.Round u index s v next := ⟨round.found, fresh, visited, round.goes⟩
      rw [walk_round round, walk_round mirrored]
      exact ih (mirrors.record v)
    · obtain ⟨outcome', stops', same⟩ := stops.mirrored mirrors
      rw [walk_stops stops, walk_stops stops']
      exact same

/-! ### Answers that count -/

/-- The answers that count: those with a value for names that are not computed. -/
def realAnswers (m : Model) (answers : ParameterStore) : List Parameter :=
  answers.toList.filter fun p =>
    !p.value.isUnknown && !m.constants.names.contains p.name && !m.derivedNames.contains p.name

theorem WellFormed.leavesOut_constant (wellFormed : m.WellFormed) {strict : Bool} {p : Parameter}
    (constant : p.name ∈ m.constants.names) : m.LeavesOut strict p := by
  have origin := (wellFormed.constant p.name).mpr constant
  intro known
  unfold acceptAnswer
  split
  · rfl
  · simp only [origin]

theorem WellFormed.leavesOut_of_not_real (wellFormed : m.WellFormed) {strict : Bool} {p : Parameter}
    (member : p ∈ answers.toList) (other : p ∉ m.realAnswers answers) : m.LeavesOut strict p := by
  by_cases unknown : p.value.isUnknown = true
  · exact fun known => acceptAnswer_of_unknown unknown
  by_cases constant : p.name ∈ m.constants.names
  · exact wellFormed.leavesOut_constant constant
  by_cases derived : p.name ∈ m.derivedNames
  · exact wellFormed.leavesOut_derived derived
  refine absurd (List.mem_filter.mpr ⟨member, ?_⟩) other
  simp [unknown, constant, derived]

/-- What is known at the start is what is taken of the answers that count. -/
theorem WellFormed.normalize_real (wellFormed : m.WellFormed) {strict : Bool} :
    m.normalize strict answers = .ok known ↔
      (∀ p ∈ m.realAnswers answers, m.Accepts strict p) ∧
        known.toList = (m.realAnswers answers).filterMap (m.taken? strict) := by
  have rest : ∀ p ∈ answers.toList, p ∉ m.realAnswers answers →
      m.Accepts strict p ∧ m.taken? strict p = none :=
    fun p member other => taken?_of_leftOut (wellFormed.leavesOut_of_not_real member other)
  rw [normalize_ok_iff]
  refine and_congr ?_ ?_
  · constructor
    · intro accepts p member
      exact accepts p (List.mem_of_mem_filter member)
    · intro accepts p member
      by_cases real : p ∈ m.realAnswers answers
      · exact accepts p real
      · exact (rest p member real).1
  · have same : (m.realAnswers answers).filterMap (m.taken? strict) =
        answers.toList.filterMap (m.taken? strict) := by
      rw [realAnswers, List.filterMap_filter]
      refine List.filterMap_congr fun p member => ?_
      split
      · rfl
      · rename_i other
        have other : p ∉ m.realAnswers answers := fun real => other (List.mem_filter.mp real).2
        exact (rest p member other).2.symm
    rw [same]

/-- Answers that are the same up to their order, those that do not count apart, give runs the same
start up to its order. -/
theorem WellFormed.normalize_perm (wellFormed : m.WellFormed) {strict : Bool}
    (same : (m.realAnswers answers).Perm (m.realAnswers others))
    (normal : m.normalize strict answers = .ok known) :
    ∃ known', m.normalize strict others = .ok known' ∧ known.SameEntries known' := by
  obtain ⟨accepts, listed⟩ := wellFormed.normalize_real.mp normal
  have perm := same.filterMap (m.taken? strict)
  have distinct : (((m.realAnswers others).filterMap (m.taken? strict)).map (·.name)).Nodup := by
    have before := known.distinct
    rw [listed] at before
    exact (perm.map _).nodup_iff.mp before
  refine ⟨⟨_, distinct⟩, wellFormed.normalize_real.mpr ⟨?_, rfl⟩, ?_⟩
  · intro p member
    exact accepts p (same.mem_iff.mpr member)
  · rw [ParameterStore.sameEntries_iff, listed]
    exact perm

/-- With answers that are the same up to their order, those that do not count apart, a run has the same
result up to the order of what it knows, or the same error unless an answer is refused. -/
theorem WellFormed.run_mirrored (wellFormed : m.WellFormed) (config : Config)
    (same : (m.realAnswers answers).Perm (m.realAnswers others)) :
    Mirrored (m.run config answers) (m.run config others) ∨
      (∃ name fault, m.run config answers = .error (.invalidAnswer name fault)) ∧
        ∃ name fault, m.run config others = .error (.invalidAnswer name fault) := by
  cases normal : m.normalize config.strictAnswers answers with
  | ok known =>
    obtain ⟨known', normal', entries⟩ := wellFormed.normalize_perm same normal
    rw [run_of_normalize normal, run_of_normalize normal']
    exact Or.inl (walk_mirrors _ _ ⟨entries, rfl, rfl, rfl⟩)
  | error e =>
    cases normal' : m.normalize config.strictAnswers others with
    | ok known' =>
      obtain ⟨_, accepted, _⟩ := wellFormed.normalize_perm same.symm normal'
      cases normal.symm.trans accepted
    | error e' =>
      obtain ⟨name, fault, rfl⟩ := acceptAnswers_error normal
      obtain ⟨name', fault', rfl⟩ := acceptAnswers_error normal'
      refine Or.inr ⟨⟨name, fault, ?_⟩, name', fault', ?_⟩
      · rw [run, normal]
        rfl
      · rw [run, normal']
        rfl

/-- A run depends on its answers only as on a finite map of those that count. With answers that are
permutations of each other, up to those without a value and those for constants and derived names, it
has a result just if it has one with the other ones. The results ask for the same, visit the same steps,
reach the same outcome and know the same parameters, and the runs fail alike unless an answer is
refused. -/
theorem run_unordered {text : String} (compiled : Model.ofText text = .ok m)
    (same : (m.realAnswers answers).Perm (m.realAnswers others)) :
    ((∃ r, m.run config answers = .ok r) ↔ ∃ r', m.run config others = .ok r') ∧
      (∀ r r', m.run config answers = .ok r → m.run config others = .ok r' →
        r.questions = r'.questions ∧ r.trace = r'.trace ∧ r.outcome = r'.outcome ∧
          r.parameters.toList.Perm r'.parameters.toList) ∧
      ∀ e, (∀ name fault, e ≠ .invalidAnswer name fault) →
        (m.run config answers = .error e ↔ m.run config others = .error e) := by
  rcases (wellFormed_of_text compiled).run_mirrored config same with mirrored |
    ⟨⟨name, fault, refused⟩, name', fault', refused'⟩
  · generalize m.run config answers = left at mirrored ⊢
    generalize m.run config others = right at mirrored ⊢
    cases mirrored with
    | error e => exact ⟨by simp, nofun, fun e' _ => Iff.rfl⟩
    | @ok r r' mirrors =>
      refine ⟨by simp, ?_, by simp⟩
      rintro _ _ ⟨⟩ ⟨⟩
      exact ⟨mirrors.questions, mirrors.trace, mirrors.outcome, mirrors.parameters⟩
  · rw [refused, refused']
    refine ⟨by simp, nofun, ?_⟩
    intro e other
    constructor
    · rintro ⟨⟩
      exact absurd rfl (other name fault)
    · rintro ⟨⟩
      exact absurd rfl (other name' fault')

/-- An income and an age. -/
def incomeAndAge : ParameterStore :=
  .ofList [.ofText "loon" "7", .ofText "leeftijd" "30"]

/-- The same the other way round, with answers for computed names and one without a value. -/
def ageAndIncome : ParameterStore :=
  .ofList [.ofText "top" "1", .ofText "leeftijd" "30", .ofValue "huur" .unknown,
    .ofText "rest" "5", .ofText "loon" "7"]

theorem run_unordered_subsidy :
    (subsidyModel.realAnswers incomeAndAge).Perm (subsidyModel.realAnswers ageAndIncome) ∧
      ∃ r r', subsidyModel.run {} incomeAndAge = .ok r ∧ subsidyModel.run {} ageAndIncome = .ok r' ∧
        r.parameters.names = ["loon", "leeftijd", "rest"] ∧
        r'.parameters.names = ["leeftijd", "loon", "rest"] ∧
        r.parameters.toList.Perm r'.parameters.toList := by
  have same : (subsidyModel.realAnswers incomeAndAge).Perm
      (subsidyModel.realAnswers ageAndIncome) := by decide
  have ran : ((subsidyModel.run {} incomeAndAge).toOption.map (·.parameters.names)) =
      some ["loon", "leeftijd", "rest"] := by decide
  have ran' : ((subsidyModel.run {} ageAndIncome).toOption.map (·.parameters.names)) =
      some ["leeftijd", "loon", "rest"] := by decide
  obtain ⟨r, first, names⟩ := ok_of_map_toOption ran
  obtain ⟨r', second, names'⟩ := ok_of_map_toOption ran'
  obtain ⟨_, _, _, parameters⟩ :=
    (run_unordered ofText_subsidyScript same).2.1 r r' first second
  exact ⟨same, r, r', first, second, names, names', parameters⟩

end Model

end Questionnaire
