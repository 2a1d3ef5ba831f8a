import Questionnaire.Proofs.Model.Checks
import Questionnaire.Proofs.Model.DerivedTypes

/-!
Types of derivations in any order of the steps.

Where the derivations without a declared type refer to each other without a circle, there is one way
to give them the types of their formulas: `Settled.unique`. The passes find it in any order of the
steps, so the order decides neither on the types nor on whether the check accepts them:
`inference_order`.
-/

namespace Questionnaire

variable {env other : TypeEnv} {ds : Derivations} {name : String}

/-! ### Types that are settled -/

/-- All names keep the types that they are declared with, but for the derivations of a list. These have
the type of their first formula with a known one, in the same types of names. -/
structure Settled (declared : TypeEnv) (ds : Derivations) (env : TypeEnv) : Prop where
  kept : ∀ name ∉ ds.names, env name = declared name
  derived : ∀ d ∈ ds, env d.1 = some (firstType env d.2)

theorem Settled.unique {declared : TypeEnv} (acyclic : ds.Acyclic)
    (settled : Settled declared ds env) (another : Settled declared ds other) : env = other := by
  obtain ⟨rank, lower, -⟩ := acyclic.exists_rank
  funext name
  induction bound : rank name using Nat.strong_induction_on generalizing name with
  | _ n ih =>
    by_cases listed : name ∈ ds.names
    · obtain ⟨⟨name, cases⟩, member, rfl⟩ := List.mem_map.mp listed
      have same : firstType env cases = firstType other cases := by
        apply firstType_congr
        intro read reads
        by_cases derived : read ∈ ds.names
        · have below : rank read < n := bound ▸ lower name read ⟨cases, member, reads, derived⟩
          exact ih (rank read) below read rfl
        · rw [settled.kept read derived, another.kept read derived]
      rw [settled.derived _ member, another.derived _ member, same]
    · rw [settled.kept name listed, another.kept name listed]

theorem Derivations.acyclic_perm {others : Derivations} (reordered : others.Perm ds)
    (acyclic : ds.Acyclic) : others.Acyclic := by
  have refers : others.Refers = ds.Refers := by
    funext name read
    simp only [Refers, names, reordered.mem_iff, (reordered.map _).mem_iff]
  unfold Acyclic
  rw [refers]
  exact acyclic

/-! ### Tables in another order -/

namespace TypeTable

variable {table reordered : TypeTable}

theorem get?_perm (distinct : (table.map (·.1)).Nodup) (perm : reordered.Perm table) :
    reordered.get? = table.get? := by
  have distinct' : (reordered.map (·.1)).Nodup := (perm.map _).nodup_iff.mpr distinct
  funext name
  unfold get?
  congr 1
  ext entry
  rw [find?_keyed distinct', find?_keyed distinct, perm.mem_iff]

theorem ofDeclarations_names (declarations : List Declaration) :
    (ofDeclarations declarations).map (·.1) = declarations.map (·.name) := by
  simp [ofDeclarations, Function.comp_def]

/-- The types that steps declare do not depend on their numbers. -/
theorem ofDeclarations_steps (start : Nat) (steps : List Step) :
    ofDeclarations (declarationsOf start steps) =
      steps.flatMap fun s => ofDeclarations (s.declarations 0) := by
  have unnumbered (index : Nat) (s : Step) :
      ofDeclarations (s.declarations index) = ofDeclarations (s.declarations 0) := by
    unfold ofDeclarations Step.declarations
    cases s.kind <;> simp
  induction steps generalizing start with
  | nil => rfl
  | cons s rest ih =>
    rw [declarationsOf, List.flatMap_cons, ← ih (start + 1), ← unnumbered start s]
    exact List.map_append

end TypeTable

/-! ### Steps in another order -/

/-- Steps, each with the type that is declared for what it derives. -/
abbrev Draft := List (Step × Option AnswerType)

namespace Draft

variable {draft order : Draft} {constants : ParameterStore} {places : Places}
  {declarations others : List Declaration}

def steps (draft : Draft) : List Step := draft.map (·.1)

def declaredTypes (draft : Draft) : List (Option AnswerType) := draft.map (·.2)

def untyped (draft : Draft) : Derivations := untypedDerivations draft.steps draft.declaredTypes

/-- The types that are inferred for names that are declared so. -/
def types (draft : Draft) (declarations : List Declaration) : TypeTable :=
  inferTypes draft.steps draft.declaredTypes declarations

theorem zip_eq (draft : Draft) : draft.steps.zip draft.declaredTypes = draft := by
  rw [steps, declaredTypes, List.zip_map']
  exact List.map_id draft

theorem untyped_perm (reordered : order.Perm draft) : order.untyped.Perm draft.untyped := by
  rw [untyped, untyped, untypedDerivations_eq, untypedDerivations_eq, zip_eq, zip_eq]
  exact reordered.filterMap _

theorem types_settled (declares : declare places constants draft.steps = .ok declarations)
    (acyclic : draft.untyped.Acyclic) :
    Settled (TypeTable.ofDeclarations declarations).get? draft.untyped
      (draft.types declarations).get? := by
  constructor
  · intro name free
    exact TypeTable.get?_passes_of_not_mem free
  · exact TypeTable.passes_agree_of_acyclic (untyped_names_nodup declares) acyclic
      fun _ => untyped_present declares

/-- Steps in another order declare the same names with the same types. -/
theorem declare_perm (declares : declare places constants draft.steps = .ok declarations)
    (reordered : order.Perm draft) (places' : Places) : ∃ others,
      declare places' constants order.steps = .ok others ∧
        (TypeTable.ofDeclarations others).Perm (TypeTable.ofDeclarations declarations) := by
  obtain ⟨made, distinct⟩ := declare_ok.mp declares
  let fixed : List Declaration := constants.toList.map fun c => ⟨c.name, .constant, c.type⟩
  have entries (ds : List Step) : TypeTable.ofDeclarations (fixed ++ declarationsOf 0 ds) =
      TypeTable.ofDeclarations fixed ++
        ds.flatMap fun s => TypeTable.ofDeclarations (s.declarations 0) := by
    rw [← TypeTable.ofDeclarations_steps 0 ds]
    exact List.map_append
  have perm : (TypeTable.ofDeclarations (fixed ++ declarationsOf 0 order.steps)).Perm
      (TypeTable.ofDeclarations declarations) := by
    rw [made, entries, entries]
    exact ((reordered.map _).flatMap_right _).append_left _
  have distinct' : ((fixed ++ declarationsOf 0 order.steps).map (·.name)).Nodup := by
    have names := (perm.map (·.1)).nodup_iff
    rw [TypeTable.ofDeclarations_names, TypeTable.ofDeclarations_names] at names
    exact names.mpr distinct
  exact ⟨_, declare_ok.mpr ⟨rfl, distinct'⟩, perm⟩

theorem checkTypes_perm {table : TypeTable} (places' : Places) (reordered : order.Perm draft) :
    checkTypes places' table 0 order.steps order.declaredTypes = .ok () ↔
      ∀ step ∈ draft, step.1.Checked table.get? step.2 := by
  simp only [checkTypes_iff, zip_eq, reordered.mem_iff]

/-- The types that are inferred are the only settled ones, and with that they are the same in every
order of the steps. The check accepts them in one order just if it does in the other. -/
theorem inference_order (declares : declare places constants draft.steps = .ok declarations)
    (acyclic : draft.untyped.Acyclic) (reordered : order.Perm draft) (places' : Places) :
    ∃ others, declare places' constants order.steps = .ok others ∧
      (∀ env, Settled (TypeTable.ofDeclarations declarations).get? draft.untyped env ↔
        env = (draft.types declarations).get?) ∧
      (order.types others).get? = (draft.types declarations).get? ∧
      (checkTypes places' (order.types others) 0 order.steps order.declaredTypes = .ok () ↔
        checkTypes places (draft.types declarations) 0 draft.steps draft.declaredTypes = .ok ()) := by
  obtain ⟨others, declares', perm⟩ := declare_perm declares reordered places'
  have distinct : ((TypeTable.ofDeclarations declarations).map (·.1)).Nodup := by
    rw [TypeTable.ofDeclarations_names]
    exact (declare_ok.mp declares).2
  have settled := types_settled declares acyclic
  have sameDerivations := untyped_perm reordered
  have settled' : Settled (TypeTable.ofDeclarations declarations).get? draft.untyped
      (order.types others).get? := by
    have here := types_settled declares' (Derivations.acyclic_perm sameDerivations acyclic)
    rw [TypeTable.get?_perm distinct perm] at here
    constructor
    · intro name free
      exact here.kept name fun listed => free ((sameDerivations.map _).mem_iff.mp listed)
    · intro d member
      exact here.derived d (sameDerivations.mem_iff.mpr member)
  have same : (order.types others).get? = (draft.types declarations).get? :=
    settled'.unique acyclic settled
  refine ⟨others, declares', fun env => ⟨fun found => found.unique acyclic settled, ?_⟩, same, ?_⟩
  · rintro rfl
    exact settled
  · rw [checkTypes_perm places' reordered, checkTypes_perm places (.refl draft), same]

/-- The steps of the script of shares before the types of its derivations are known. -/
def shares : Draft := Model.shareSteps.map fun s => (s.typed [], none)

def shareDeclarations : List Declaration :=
  [⟨"n", .question 0, .number⟩, ⟨"helft", .derivation 1, .unknown⟩,
    ⟨"deel", .derivation 2, .unknown⟩]

/-- A half is derived from a share that comes up behind it, or in front of it. -/
theorem inference_order_shares : ∃ others,
    declare default .empty shares.steps = .ok shareDeclarations ∧ shares.untyped.Acyclic ∧
      shares.reverse.Perm shares ∧
      declare default .empty (Draft.steps shares.reverse) = .ok others ∧
      (Draft.types shares.reverse others).get? "helft" = some .number := by
  have declares : declare default .empty shares.steps = .ok shareDeclarations := by decide
  have acyclic : shares.untyped.Acyclic :=
    Derivations.acyclic_of_rank (fun name => if name = "helft" then 1 else 0) (by decide)
  have reordered : shares.reverse.Perm shares := List.reverse_perm _
  have number : (shares.types shareDeclarations).get? "helft" = some .number := by decide
  obtain ⟨others, declares', -, same, -⟩ := inference_order declares acyclic reordered default
  exact ⟨others, declares, acyclic, reordered, declares', same ▸ number⟩

end Draft

end Questionnaire
