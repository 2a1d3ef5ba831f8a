import Mathlib.Data.List.Perm.Subperm
import Questionnaire.Proofs.Answers.Normalization
import Questionnaire.Proofs.Run.Justified
import Questionnaire.Proofs.Run.Rounds

/-!
Runs write every derived value once.

A run begins in a consistent store and every round keeps it consistent, so what a run knows only grows
at its end: `Rounds.writes_once`.
-/

namespace Questionnaire.Model

variable {m : Model} {known : ParameterStore} {s : Step} {used : List String} {v : Visit}
  {target target' : Target} {w w' : Walk} {index n : Nat}

theorem WellFormed.start_consistent (wellFormed : m.WellFormed) {strict : Bool}
    {answers : ParameterStore} (normal : m.normalize strict answers = .ok known) :
    m.Consistent known := by
  intro index s name found derived member
  have origin := (wellFormed.derivation name index).mpr ⟨s, found, derived⟩
  obtain ⟨_, question⟩ := normalize_answerable normal name member _ origin
  cases question

/-- A round leaves what is known alone, or it writes once and counts it. -/
theorem Round.writes (wellFormed : m.WellFormed) (consistent : m.Consistent w.known)
    (round : m.Round w index s v target) :
    ((w.record index s v).known = w.known ∧ (w.record index s v).version = w.version) ∨
      ∃ p, m.Writes w.known p ∧ (w.record index s v).known = w.known.insert p ∧
        (w.record index s v).version = w.version + 1 := by
  obtain ⟨writes, _⟩ :=
    consistent.visit wellFormed round.found round.visited round.goes
  cases derived : v.derived with
  | none => exact Or.inl (by simp [Walk.record, derived])
  | some p => exact Or.inr ⟨p, writes p derived, by simp [Walk.record, derived]⟩

theorem Round.consistent (wellFormed : m.WellFormed) (consistent : m.Consistent w.known)
    (round : m.Round w index s v target) : m.Consistent (w.record index s v).known := by
  rcases round.writes wellFormed consistent with ⟨same, _⟩ | ⟨p, writes, written, _⟩
  · rwa [same]
  · rw [written]
    exact writes.consistent wellFormed consistent

theorem Rounds.consistent (wellFormed : m.WellFormed) (rounds : m.Rounds n w target w' target')
    (consistent : m.Consistent w.known) : m.Consistent w'.known := by
  induction rounds with
  | nil => exact consistent
  | cons round rest ih => exact ih (round.consistent wellFormed consistent)

/-- What justifies a step at one point of a run justifies it at every later one. -/
theorem Rounds.justified (wellFormed : m.WellFormed) (rounds : m.Rounds n w target w' target')
    (consistent : m.Consistent w.known) {i : Nat} {t : Step} {next : Target}
    (found : m.steps[i]? = some t) (justified : t.Justified m w.known used next) :
    t.Justified m w'.known used next := by
  induction rounds with
  | nil => exact justified
  | cons round rest ih =>
    refine ih (round.consistent wellFormed consistent) ?_
    rcases round.writes wellFormed consistent with ⟨same, _⟩ | ⟨p, writes, written, _⟩
    · rwa [same]
    · rw [written]
      exact writes.justified wellFormed found justified

/-- Rounds append to what is known, and the version counts what they append. -/
theorem Rounds.appends (wellFormed : m.WellFormed) (rounds : m.Rounds n w target w' target')
    (consistent : m.Consistent w.known) :
    ∃ writes, w'.known.toList = w.known.toList ++ writes ∧
      w'.version = w.version + writes.length ∧
      ∀ p ∈ writes, ∃ index, m.origin? p.name = some (.derivation index) := by
  induction rounds with
  | nil => exact ⟨[], by simp⟩
  | cons round rest ih =>
    obtain ⟨later, appended, counted, derived⟩ := ih (round.consistent wellFormed consistent)
    rcases round.writes wellFormed consistent with ⟨same, still⟩ | ⟨p, writes, written, next⟩
    · exact ⟨later, by rw [appended, same], by rw [counted, still], derived⟩
    · refine ⟨p :: later, ?_, ?_, ?_⟩
      · rw [appended, written, ParameterStore.toList_insert_of_absent writes.absent]
        simp
      · rw [counted, next, List.length_cons]
        omega
      · intro q member
        rcases List.mem_cons.mp member with rfl | after
        · exact writes.origin wellFormed
        · exact derived q after

/-- The names that the steps of a model derive, one for each derivation. -/
def derivedNames (m : Model) : List String := m.steps.filterMap (·.derivedName?)

theorem WellFormed.mem_derivedNames (wellFormed : m.WellFormed) {name : String} :
    name ∈ m.derivedNames ↔ ∃ index, m.origin? name = some (.derivation index) := by
  simp only [derivedNames, List.mem_filterMap, wellFormed.derivation]
  constructor
  · rintro ⟨s, member, derived⟩
    obtain ⟨index, found⟩ := List.mem_iff_getElem?.mp member
    exact ⟨index, s, found, derived⟩
  · rintro ⟨index, s, found, derived⟩
    exact ⟨s, List.mem_of_getElem? found, derived⟩

/-- What was known before, and behind it values of derivations, each under a name that is new. -/
structure Appends (m : Model) (before after : ParameterStore) (writes : List Parameter) : Prop where
  appended : after.toList = before.toList ++ writes
  once : (writes.map (·.name)).Nodup
  derived : ∀ p ∈ writes, p.name ∈ m.derivedNames
  fresh : ∀ p ∈ writes, p.name ∉ before.names

theorem WellFormed.asked_not_derived (wellFormed : m.WellFormed) {q : AskedParameter}
    (step : s ∈ m.steps) (asked : q ∈ s.asked) : q.name ∉ m.derivedNames := by
  intro derived
  obtain ⟨_, origin⟩ := wellFormed.mem_derivedNames.mp derived
  obtain ⟨index, found⟩ := List.mem_iff_getElem?.mp step
  rw [wellFormed.origin?_asked found asked] at origin
  cases origin

/-- Names that are not derived keep what they had. -/
theorem Appends.get?_eq {before after : ParameterStore} {writes : List Parameter}
    (appends : m.Appends before after writes) {name : String} (other : name ∉ m.derivedNames) :
    after.get? name = before.get? name := by
  have unwritten : writes.find? (·.name == name) = none := by
    rw [List.find?_eq_none]
    intro p member named
    rw [← beq_iff_eq.mp named] at other
    exact other (appends.derived p member)
  rw [ParameterStore.get?, appends.appended, List.find?_append, unwritten, Option.or_none]
  rfl

theorem Appends.length_le {before after : ParameterStore} {writes : List Parameter}
    (appends : m.Appends before after writes) : writes.length ≤ m.derivedNames.length := by
  have names : writes.map (·.name) ⊆ m.derivedNames := by
    intro name member
    obtain ⟨p, present, rfl⟩ := List.mem_map.mp member
    exact appends.derived p present
  rw [← List.length_map (·.name)]
  exact (List.subperm_of_subset appends.once names).length_le

/-- Between two points of a run every derivation writes at most once. -/
theorem Rounds.writes_once (wellFormed : m.WellFormed) (rounds : m.Rounds n w target w' target')
    (consistent : m.Consistent w.known) :
    ∃ writes, m.Appends w.known w'.known writes ∧ w'.version = w.version + writes.length := by
  obtain ⟨writes, appended, counted, derived⟩ := rounds.appends wellFormed consistent
  have distinct := w'.known.distinct
  rw [appended, List.map_append, List.nodup_append] at distinct
  obtain ⟨_, once, apart⟩ := distinct
  refine ⟨writes, ⟨appended, once, ?_, ?_⟩, counted⟩
  · intro p member
    exact wellFormed.mem_derivedNames.mpr (derived p member)
  · intro p member before
    exact apart _ before _ (List.mem_map_of_mem member) rfl

end Questionnaire.Model
