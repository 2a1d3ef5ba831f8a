import Questionnaire.Proofs.Model.Compile
import Questionnaire.Proofs.Parameter.Lookup

/-!
The names that a compiled model declares.

Every name is declared once, and where it comes from is where it really is made: the constants, the
step that asks for it or the step that derives it.
-/

namespace Questionnaire

def Step.derivedName? (s : Step) : Option String :=
  match s.kind with
  | .derivation name _ _ => some name
  | _ => none

def Step.askedNames (s : Step) : List String := s.asked.map (·.name)

theorem Step.derivedName?_eq_some {s : Step} {name : String} :
    s.derivedName? = some name ↔ ∃ type cases, s.kind = .derivation name type cases := by
  unfold derivedName?
  cases s.kind <;> simp

/-! ### Declarations of steps -/

theorem mem_declarations {s : Step} {index : Nat} {name : String} {origin : Origin} :
    (∃ d ∈ s.declarations index, d.name = name ∧ d.origin = origin) ↔
      (origin = .question index ∧ name ∈ s.askedNames) ∨
        (origin = .derivation index ∧ s.derivedName? = some name) := by
  unfold Step.declarations Step.askedNames Step.asked Step.derivedName?
  cases s.kind with
  | question parameters mode =>
    simp only [List.mem_map, exists_exists_and_eq_and, reduceCtorEq, and_false, or_false]
    constructor
    · rintro ⟨p, member, rfl, rfl⟩
      exact ⟨rfl, p, member, rfl⟩
    · rintro ⟨rfl, p, member, rfl⟩
      exact ⟨p, member, rfl, rfl⟩
  | derivation other type cases =>
    simp only [List.mem_singleton, exists_eq_left, List.map_nil, List.not_mem_nil, and_false,
      false_or, Option.some.injEq]
    constructor
    · rintro ⟨named, made⟩
      exact ⟨made.symm, named⟩
    · rintro ⟨made, named⟩
      exact ⟨named, made.symm⟩
  | gate => simp

theorem mem_declarationsOf {start : Nat} {steps : List Step} {d : Declaration} :
    d ∈ declarationsOf start steps ↔
      ∃ (index : Nat) (s : Step), steps[index]? = some s ∧ d ∈ s.declarations (start + index) := by
  induction steps generalizing start with
  | nil => simp [declarationsOf]
  | cons s rest ih =>
    rw [declarationsOf, List.mem_append, ih]
    constructor
    · rintro (here | ⟨index, other, found, member⟩)
      · exact ⟨0, s, rfl, here⟩
      · exact ⟨index + 1, other, found, by rwa [Nat.add_right_comm] at member⟩
    · rintro ⟨index, other, found, member⟩
      cases index with
      | zero =>
        cases found
        exact Or.inl member
      | succ index => exact Or.inr ⟨index, other, found, by rwa [Nat.add_right_comm]⟩

theorem declarations_sublist {start index : Nat} {steps : List Step} {s : Step}
    (found : steps[index]? = some s) :
    (s.declarations (start + index)).Sublist (declarationsOf start steps) := by
  induction steps generalizing start index with
  | nil => cases found
  | cons head rest ih =>
    rw [declarationsOf]
    cases index with
    | zero =>
      cases found
      exact List.sublist_append_left _ _
    | succ index =>
      have later : (s.declarations (start + 1 + index)).Sublist (declarationsOf (start + 1) rest) :=
        ih found
      rw [Nat.add_right_comm] at later
      exact later.trans (List.sublist_append_right _ _)

theorem askedNames_sublist (s : Step) (index : Nat) :
    s.askedNames.Sublist ((s.declarations index).map (·.name)) := by
  unfold Step.declarations Step.askedNames Step.asked
  cases s.kind <;> simp [Function.comp_def]

/-! ### Adding declarations -/

/-- Declarations are added just if no name comes up twice. -/
theorem addDeclarations_ok {places : Places} {ids : List String} {declared out : List Declaration}
    {ds : List Declaration} (before : (declared.map (·.name)).Nodup) :
    addDeclarations places ids declared ds = .ok out ↔
      out = declared ++ ds ∧ (out.map (·.name)).Nodup := by
  induction ds generalizing declared with
  | nil =>
    rw [addDeclarations, Except.ok.injEq, List.append_nil, eq_comm]
    exact (and_iff_left_of_imp fun same => same ▸ before).symm
  | cons d rest ih =>
    unfold addDeclarations
    cases taken : declared.find? (·.name == d.name) with
    | some other =>
      have named : other.name = d.name := by simpa using List.find?_some taken
      have present : other ∈ declared := List.mem_of_find?_eq_some taken
      refine iff_of_false nofun ?_
      rintro ⟨rfl, distinct⟩
      rw [List.map_append, List.nodup_append] at distinct
      exact distinct.2.2 _ (List.mem_map_of_mem present) _ List.mem_cons_self named
    | none =>
      have free : ∀ e ∈ declared, e.name ≠ d.name := by
        intro e present
        simpa using List.find?_eq_none.mp taken e present
      have after : ((declared ++ [d]).map (·.name)).Nodup := by
        rw [List.map_append, List.nodup_append]
        refine ⟨before, List.nodup_singleton _, ?_⟩
        intro name member other single
        obtain ⟨e, present, rfl⟩ := List.mem_map.mp member
        rw [List.mem_singleton.mp single]
        exact free e present
      simpa using ih after

theorem declare_ok {places : Places} {constants : ParameterStore} {steps : List Step}
    {declarations : List Declaration} : declare places constants steps = .ok declarations ↔
      declarations = constants.toList.map (fun c => ⟨c.name, .constant, c.type⟩) ++
        declarationsOf 0 steps ∧ (declarations.map (·.name)).Nodup := by
  refine addDeclarations_ok ?_
  simpa [Function.comp_def] using constants.distinct

/-! ### With derived types -/

variable {table : TypeTable}

@[simp] theorem Declaration.typed_name (d : Declaration) : (d.typed table).name = d.name := by
  unfold typed
  split <;> rfl

@[simp] theorem Declaration.typed_origin (d : Declaration) : (d.typed table).origin = d.origin := by
  unfold typed
  split <;> rfl

@[simp] theorem Step.typed_askedNames (s : Step) : (s.typed table).askedNames = s.askedNames := by
  unfold typed
  split
  · rename_i kind
    simp [askedNames, asked, kind]
  · rfl

@[simp] theorem Step.typed_derivedName? (s : Step) :
    (s.typed table).derivedName? = s.derivedName? := by
  unfold typed
  split
  · rename_i kind
    simp [derivedName?, kind]
  · rfl

end Questionnaire
