import Questionnaire.Proofs.Model.Ids
import Questionnaire.Proofs.Model.Parts
import Questionnaire.Proofs.Model.WellFormed

/-!
Where the steps of a model lead.

Scripts name the step to go on with, models number it. `Leads` says where a target of a script leads
without looking anything up, and every step of a compiled model leads where its step in the script
says: `CompiledFrom.linked`.
-/

namespace Questionnaire

/-- Where a target of the step of a number leads, in a script of these ids: without a name to the next
step if there is one, and else to the step of the name or to an end. -/
inductive Leads (ids : List String) (index : Nat) : Option Script.Target → Target → Prop
  | onward {raw : Option Script.Target} (plain : raw = none ∨ raw = some (.named "next"))
      (more : index + 1 < ids.length) : Leads ids index raw (.step (index + 1))
  | last {raw : Option Script.Target} (plain : raw = none ∨ raw = some (.named "next"))
      (last : ids.length ≤ index + 1) : Leads ids index raw (.finish none)
  | ended : Leads ids index (some (.named "end")) (.finish none)
  | named {id : String} {i : Nat} (free : id ∉ reservedIds) (there : ids[i]? = some id) :
      Leads ids index (some (.named id)) (.step i)
  | goto {id : String} {i : Nat} (there : ids[i]? = some id) :
      Leads ids index (some (.goto id)) (.step i)
  | outcome {label : String} (filled : Text.isBlankText label = false) :
      Leads ids index (some (.outcome label)) (.finish (some label))

/-- A step that leads where its step in the script says. A gate falls back on a question step or on
none. -/
def Step.Linked (steps : List Step) (index : Nat) (raw : Script.Step) (s : Step) : Prop :=
  match s.kind with
  | .gate _ onTrue onFalse fallback => ∃ gate, raw.gate = some gate ∧
      Leads (steps.map (·.id)) index gate.onTrue onTrue ∧
      Leads (steps.map (·.id)) index gate.onFalse onFalse ∧ s.next = onTrue ∧
      Option.Rel (fun id i => ∃ q, steps[i]? = some q ∧ q.id = id ∧ q.isQuestion = true)
        gate.fallback fallback
  | _ => raw.gate = none ∧ Leads (steps.map (·.id)) index raw.next s.next

namespace StepSite

variable {site : StepSite} {kind : StepKind} {t : Target}

/-! ### Targets -/

theorem getElem?_of_idxOf? {ids : List String} {id : String} {i : Nat}
    (found : ids.idxOf? id = some i) : ids[i]? = some id := by
  rw [List.idxOf?, List.findIdx?_eq_some_iff_getElem] at found
  obtain ⟨inside, same, _⟩ := found
  rw [List.getElem?_eq_getElem inside]
  exact congrArg some (beq_iff_eq.mp same)

theorem jump_ok {id : String} (h : site.jump id = .ok t) :
    ∃ i, site.ids[i]? = some id ∧ t = .step i := by
  unfold jump at h
  cases found : site.ids.idxOf? id with
  | none => simp [found, fail] at h
  | some i =>
    simp only [found, Except.ok.injEq] at h
    exact ⟨i, getElem?_of_idxOf? found, h.symm⟩

theorem following_leads {raw : Option Script.Target}
    (plain : raw = none ∨ raw = some (.named "next")) :
    Leads site.ids site.index raw site.following := by
  unfold following
  split
  · exact .onward plain ‹_›
  · exact .last plain (Nat.le_of_not_lt ‹_›)

theorem target_leads {raw : Option Script.Target} (h : site.target raw = .ok t) :
    Leads site.ids site.index raw t := by
  unfold target at h
  split at h
  · cases h
    exact following_leads (Or.inl rfl)
  · rename_i name
    split at h
    · rename_i next
      cases h
      exact following_leads (Or.inr (by rw [next]))
    · split at h
      · rename_i ended
        cases h
        rw [ended]
        exact .ended
      · rename_i notNext notEnd
        obtain ⟨i, there, rfl⟩ := jump_ok h
        exact .named (by simp [reservedIds, notNext, notEnd]) there
  · obtain ⟨i, there, rfl⟩ := jump_ok h
    exact .goto there
  · split at h
    · simp [fail] at h
    · rename_i filled
      cases h
      exact .outcome (Bool.eq_false_iff.mpr filled)

/-! ### Steps -/

theorem gate_links {raw : Script.Gate} (h : site.gate raw = .ok kind) :
    ∃ condition onTrue onFalse fallback, kind = .gate condition onTrue onFalse fallback ∧
      Leads site.ids site.index raw.onTrue onTrue ∧
      Leads site.ids site.index raw.onFalse onFalse ∧
      Option.Rel (fun id i => site.ids[i]? = some id) raw.fallback fallback := by
  unfold gate at h
  obtain ⟨condition, _, h⟩ := bind_ok.mp h
  obtain ⟨onTrue, trueRead, h⟩ := bind_ok.mp h
  obtain ⟨onFalse, falseRead, h⟩ := bind_ok.mp h
  have trueLeads := target_leads trueRead
  have falseLeads := target_leads falseRead
  split at h
  · rename_i without
    rw [without]
    exact ⟨condition, onTrue, onFalse, none, (pure_ok.mp h).symm, trueLeads, falseLeads, .none⟩
  · rename_i id given
    split at h
    · rename_i i found
      rw [given]
      exact ⟨condition, onTrue, onFalse, some i, (pure_ok.mp h).symm, trueLeads, falseLeads,
        .some (getElem?_of_idxOf? found)⟩
    · simp [fail] at h

theorem kind_gate (h : site.kind = .ok kind) :
    (∃ raw, site.step.gate = some raw ∧ site.gate raw = .ok kind) ∨
      site.step.gate = none ∧ ∀ condition onTrue onFalse fallback,
        kind ≠ .gate condition onTrue onFalse fallback := by
  unfold StepSite.kind at h
  split at h
  · obtain ⟨parameters, rfl, _⟩ := choice_sound h
    exact Or.inr ⟨‹_›, nofun⟩
  · obtain ⟨parameters, rfl, _⟩ := questions_sound h
    exact Or.inr ⟨‹_›, nofun⟩
  · obtain ⟨name, type, cases, rfl, _⟩ := derivation_sound h
    exact Or.inr ⟨‹_›, nofun⟩
  · split at h
    · simp [fail] at h
    · exact Or.inl ⟨_, ‹_›, h⟩
  · simp [failLine] at h

/-- A step goes on where its gate does if that holds, and else where the script says. -/
theorem build_next {s : Step} (h : site.build = .ok s) :
    (∃ condition onTrue onFalse fallback,
        s.kind = .gate condition onTrue onFalse fallback ∧ s.next = onTrue) ∨
      (∀ condition onTrue onFalse fallback, s.kind ≠ .gate condition onTrue onFalse fallback) ∧
        Leads site.ids site.index site.step.next s.next := by
  unfold build at h
  obtain ⟨kind, _, h⟩ := bind_ok.mp h
  split at h
  · cases pure_ok.mp h
    exact Or.inl ⟨_, _, _, _, rfl, rfl⟩
  · rename_i other
    obtain ⟨next, read, h⟩ := bind_ok.mp h
    cases pure_ok.mp h
    exact Or.inr ⟨other, target_leads read⟩

end StepSite

/-! ### Fallbacks -/

theorem checkFallbacks_ok {places : Places} {steps rest : List Step} {start : Nat}
    (h : checkFallbacks places steps start rest = .ok ()) {s q : Step} (member : s ∈ rest)
    {condition : Formula} {onTrue onFalse : Target} {i : Nat}
    (kind : s.kind = .gate condition onTrue onFalse (some i)) (there : steps[i]? = some q) :
    q.isQuestion = true := by
  induction rest generalizing start with
  | nil => cases member
  | cons first rest ih =>
    unfold checkFallbacks at h
    rcases List.mem_cons.mp member with rfl | later
    · simp only [kind, there] at h
      split at h
      · assumption
      · cases h
    · split at h
      · split at h
        · split at h
          · exact ih h later
          · cases h
        · exact ih h later
      · exact ih h later

/-! ### With derived types -/

variable {table : TypeTable}

@[simp] theorem Step.typed_next (s : Step) : (s.typed table).next = s.next := by
  unfold typed
  split <;> rfl

@[simp] theorem Step.typed_isQuestion (s : Step) :
    (s.typed table).isQuestion = s.isQuestion := by
  unfold typed
  split
  · rename_i kind
    simp [isQuestion, kind]
  · rfl

theorem Step.typed_gate {s : Step} {condition : Formula} {onTrue onFalse : Target}
    {fallback : Option Nat} :
    (s.typed table).kind = .gate condition onTrue onFalse fallback ↔
      s.kind = .gate condition onTrue onFalse fallback := by
  unfold typed
  split
  · rename_i kind
    simp [kind]
  · rfl

namespace Model.CompiledFrom

variable {m : Model} {source : Source} {script : Script} {steps : List Step}
  {constants : ParameterStore} {declarations : List Declaration} {index : Nat} {s : Step}

/-- Every step leads where its step in the script says. -/
theorem linked (stages : CompiledFrom source script steps constants declarations m)
    (found : m.steps[index]? = some s) :
    ∃ raw, script.steps[index]? = some raw ∧ s.id = raw.id ∧ s.Linked m.steps index raw := by
  obtain ⟨built, there, rfl⟩ := stages.step_eq_some.mp found
  obtain ⟨raw, given, made⟩ := buildSteps_getElem? stages.built there
  rw [Nat.zero_add] at made
  refine ⟨raw, given, by rw [Step.typed_id, StepSite.build_id made], ?_⟩
  unfold Step.Linked
  rw [stages.ids_eq, Step.typed_next]
  rcases StepSite.kind_gate (StepSite.build_kind made) with ⟨gate, rawGate, gateMade⟩ |
    ⟨rawGate, other⟩
  · obtain ⟨condition, onTrue, onFalse, fallback, kind, trueLeads, falseLeads, falls⟩ :=
      StepSite.gate_links gateMade
    rw [Step.typed_gate.mpr kind]
    refine ⟨gate, rawGate, trueLeads, falseLeads, ?_, ?_⟩
    · rcases StepSite.build_next made with ⟨_, _, _, _, kind', next⟩ | ⟨other, _⟩
      · rw [kind] at kind'
        cases kind'
        exact next
      · exact absurd kind (other _ _ _ _)
    · generalize gate.fallback = named at falls ⊢
      cases falls with
      | none => exact .none
      | @some id i here =>
        have listed : (m.steps.map (·.id))[i]? = some id := by rwa [stages.ids_eq]
        rw [List.getElem?_map, Option.map_eq_some_iff] at listed
        obtain ⟨q, target, named⟩ := listed
        obtain ⟨before, early, rfl⟩ := stages.step_eq_some.mp target
        refine .some ⟨_, target, named, ?_⟩
        rw [Step.typed_isQuestion]
        exact checkFallbacks_ok stages.fallbacks (List.mem_of_getElem? there) kind early
  · have next : Leads (script.steps.map (·.id)) index raw.next built.next := by
      rcases StepSite.build_next made with ⟨_, _, _, _, kind, _⟩ | ⟨_, leads⟩
      · exact absurd kind (other _ _ _ _)
      · exact leads
    split
    · rename_i kind
      exact absurd (Step.typed_gate.mp kind) (other _ _ _ _)
    · exact ⟨rawGate, next⟩

end Model.CompiledFrom

end Questionnaire
