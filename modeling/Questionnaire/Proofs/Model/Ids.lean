import Questionnaire.Proofs.Model.Declared

/-!
Ids of steps.

No two steps of a compiled model have one id, so a step can be looked up by it: `CompiledFrom.step?_id`.
-/

namespace Questionnaire

theorem checkIds_ok {places : Places} {index : Nat} {taken ids : List String}
    (h : checkIds places index taken ids = .ok ()) : ids.Nodup ∧ ∀ id ∈ ids, id ∉ taken := by
  induction ids generalizing index taken with
  | nil => simp
  | cons id rest ih =>
    unfold checkIds at h
    split at h
    · cases h
    · split at h
      · cases h
      · split at h
        · cases h
        · rename_i free
          obtain ⟨distinct, others⟩ := ih h
          refine ⟨List.nodup_cons.mpr ⟨?_, distinct⟩, ?_⟩
          · intro again
            exact others id again List.mem_cons_self
          · intro other member
            rcases List.mem_cons.mp member with rfl | later
            · simpa using free
            · exact fun present => others other later (List.mem_cons_of_mem _ present)

theorem checkIds_proper {places : Places} {index : Nat} {taken ids : List String}
    (h : checkIds places index taken ids = .ok ()) :
    ∀ id ∈ ids, Text.isBlankText id = false ∧ id ∉ reservedIds := by
  induction ids generalizing index taken with
  | nil => simp
  | cons id rest ih =>
    unfold checkIds at h
    split at h
    · cases h
    · rename_i filled
      split at h
      · cases h
      · rename_i free
        split at h
        · cases h
        · rw [List.forall_mem_cons]
          exact ⟨⟨Bool.eq_false_iff.mpr filled, by simpa using free⟩, ih h⟩

theorem StepSite.build_id {site : StepSite} {s : Step} (h : site.build = .ok s) :
    s.id = site.step.id := by
  unfold build at h
  obtain ⟨kind, _, h⟩ := bind_ok.mp h
  split at h
  all_goals
    obtain ⟨next, _, h⟩ := bind_ok.mp h
    rw [← pure_ok.mp h]

theorem buildSteps_ids {places : Places} {ids : List String} {start : Nat}
    {raw : List Script.Step} {steps : List Step} (h : buildSteps places ids start raw = .ok steps) :
    steps.map (·.id) = raw.map (·.id) := by
  induction raw generalizing start steps with
  | nil =>
    cases h
    rfl
  | cons step rest ih =>
    unfold buildSteps at h
    obtain ⟨built, made, h⟩ := bind_ok.mp h
    obtain ⟨others, later, h⟩ := bind_ok.mp h
    rw [← pure_ok.mp h, List.map_cons, List.map_cons, ih later, StepSite.build_id made]

@[simp] theorem Step.typed_id (s : Step) (table : TypeTable) : (s.typed table).id = s.id := by
  unfold typed
  split <;> rfl

namespace Model

variable {m : Model} {source : Source} {script : Script} {steps : List Step}
  {constants : ParameterStore} {declarations : List Declaration}

theorem CompiledFrom.ids_eq (stages : CompiledFrom source script steps constants declarations m) :
    m.steps.map (·.id) = script.steps.map (·.id) := by
  rw [stages.model, List.map_map, ← buildSteps_ids stages.built]
  exact List.map_congr_left fun s _ => s.typed_id _

theorem CompiledFrom.ids_nodup
    (stages : CompiledFrom source script steps constants declarations m) :
    (m.steps.map (·.id)).Nodup := by
  rw [stages.ids_eq]
  exact (checkIds_ok stages.ids).1

theorem CompiledFrom.step?_id (stages : CompiledFrom source script steps constants declarations m)
    {s : Step} (step : s ∈ m.steps) : m.step? s.id = some s :=
  (find?_keyed stages.ids_nodup).mpr ⟨step, rfl⟩

end Model

end Questionnaire
