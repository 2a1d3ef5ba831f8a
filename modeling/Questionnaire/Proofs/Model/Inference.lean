import Mathlib.Data.Finset.Card
import Mathlib.Logic.Relation
import Questionnaire.Model.Typing
import Questionnaire.Proofs.Expression.Typing

/-!
The inference of derived types.

A pass gives every derivation the type of its first formula with a known one, in the types that are
found so far. Where the derivations refer to each other without a circle, each has a rank above those
that it refers to, and after so many passes a derivation has its type for good:
`passes_agree_of_acyclic`. In a circle the passes may stop before the types agree with the formulas.
Whether they do shows in one more pass: `pass_unchanged_iff`.
-/

namespace Questionnaire

/-- The type of the first formula that has a known one. -/
def firstType (env : TypeEnv) (cases : List Case) : AnswerType :=
  (cases.findSome? fun c =>
    match c.formula.root.type env with
    | .ok .unknown | .error _ => none
    | .ok t => some t).getD .unknown

def formulaNames (cases : List Case) : List String := cases.flatMap fun c => c.formula.root.names

theorem firstType_congr {env other : TypeEnv} {cases : List Case}
    (agree : ∀ name ∈ formulaNames cases, other name = env name) :
    firstType other cases = firstType env cases := by
  unfold firstType
  congr 1
  induction cases with
  | nil => rfl
  | cons c rest ih =>
    have here : c.formula.root.type other = c.formula.root.type env :=
      Expr.type_congr fun name member => agree name (List.mem_append_left _ member)
    rw [List.findSome?_cons, List.findSome?_cons, here,
      ih fun name member => agree name (List.mem_append_right _ member)]

abbrev Derivations := List (String × List Case)

namespace Derivations

def names (ds : Derivations) : List String := ds.map (·.1)

/-- A formula of one derivation reads the other one. -/
def Refers (ds : Derivations) (name other : String) : Prop :=
  ∃ cases, (name, cases) ∈ ds ∧ other ∈ formulaNames cases ∧ other ∈ ds.names

/-- No derivation refers to itself, be it through others. -/
def Acyclic (ds : Derivations) : Prop := ∀ name, ¬Relation.TransGen ds.Refers name name

variable {ds : Derivations} {name other : String} {cases others : List Case}

theorem mem_names (member : (name, cases) ∈ ds) : name ∈ ds.names := List.mem_map_of_mem member

theorem cases_unique (distinct : ds.names.Nodup) (member : (name, cases) ∈ ds)
    (another : (name, others) ∈ ds) : cases = others :=
  congrArg Prod.snd (List.inj_on_of_nodup_map distinct member another rfl)

/-- The rank is the number of derivations that one leads to. -/
theorem Acyclic.exists_rank (acyclic : ds.Acyclic) :
    ∃ rank : String → Nat, (∀ name other, ds.Refers name other → rank other < rank name) ∧
      ∀ name, rank name ≤ ds.length := by
  classical
  refine ⟨fun name => (ds.names.toFinset.filter (Relation.TransGen ds.Refers name)).card, ?_, ?_⟩
  · intro name other refers
    have listed : other ∈ ds.names := refers.choose_spec.2.2
    apply Finset.card_lt_card
    constructor
    · intro reached member
      rw [Finset.mem_filter] at member ⊢
      exact ⟨member.1, .head refers member.2⟩
    · intro contained
      have loop := contained (Finset.mem_filter.mpr ⟨List.mem_toFinset.mpr listed, .single refers⟩)
      exact acyclic other (Finset.mem_filter.mp loop).2
  · intro name
    calc (ds.names.toFinset.filter (Relation.TransGen ds.Refers name)).card
      _ ≤ ds.names.toFinset.card := Finset.card_filter_le _ _
      _ ≤ ds.names.length := List.toFinset_card_le _
      _ = ds.length := List.length_map _

theorem acyclic_of_rank (rank : String → Nat) (lower : ∀ d ∈ ds, ∀ other ∈ formulaNames d.2,
    other ∈ ds.names → rank other < rank d.1) : ds.Acyclic := by
  have descends {name other : String} : ds.Refers name other → rank other < rank name :=
    fun ⟨cases, member, reads, listed⟩ => lower (name, cases) member other reads listed
  intro name loop
  have below : ∀ other, Relation.TransGen ds.Refers name other → rank other < rank name := by
    intro other reached
    induction reached with
    | single refers => exact descends refers
    | tail _ refers ih => exact Nat.lt_trans (descends refers) ih
  exact Nat.lt_irrefl _ (below name loop)

end Derivations

namespace TypeTable

variable {table before : TypeTable} {ds : Derivations} {name other : String} {type : AnswerType}
  {cases : List Case} {n : Nat}

theorem get?_set : (table.set name type).get? other =
    if other = name then (table.get? name).map fun _ => type else table.get? other := by
  induction table with
  | nil => simp [set, get?]
  | cons entry rest ih =>
    obtain ⟨key, t⟩ := entry
    by_cases here : key = name <;> by_cases sought : key = other <;>
      by_cases same : other = name <;> simp_all [set, get?]

theorem get?_ofDeclarations {declarations : List Declaration} :
    (ofDeclarations declarations).get? name =
      (declarations.find? (·.name == name)).map (·.type) := by
  simp [ofDeclarations, get?, List.find?_map, Function.comp_def]

/-- A table gives a derivation the type that its formulas have in the table. -/
def Agrees (table : TypeTable) (name : String) (cases : List Case) : Prop :=
  table.get? name = some (firstType table.get? cases)

/-! ### Names that passes leave alone -/

theorem get?_pass_of_not_mem (absent : name ∉ ds.names) :
    (table.pass ds).get? name = table.get? name := by
  induction ds generalizing table with
  | nil => rfl
  | cons d rest ih =>
    simp only [Derivations.names, List.map_cons, List.mem_cons, not_or] at absent
    have later : ((table.set d.1 (table.caseType d.2)).pass rest).get? name =
        (table.set d.1 (table.caseType d.2)).get? name := ih absent.2
    rw [get?_set, if_neg absent.1] at later
    exact later

theorem get?_passes_of_not_mem (absent : name ∉ ds.names) :
    (passes ds n table).get? name = table.get? name := by
  induction n generalizing table with
  | zero => rfl
  | succ n ih => rw [passes, ih, get?_pass_of_not_mem absent]

theorem isSome_get?_set (present : (table.get? name).isSome) :
    ((table.set other type).get? name).isSome := by
  rw [get?_set]
  split
  · rename_i same
    subst same
    simpa using present
  · exact present

theorem isSome_get?_pass (present : (table.get? name).isSome) :
    ((table.pass ds).get? name).isSome := by
  induction ds generalizing table with
  | nil => exact present
  | cons d rest ih =>
    exact ih (isSome_get?_set present)

theorem isSome_get?_passes (present : (table.get? name).isSome) :
    ((passes ds n table).get? name).isSome := by
  induction n generalizing table with
  | zero => exact present
  | succ n ih => exact ih (isSome_get?_pass present)

/-! ### Passes without circles -/

/-- Once all that a derivation refers to agrees, it agrees after its next turn, and so do all others
that agreed. -/
theorem agrees_set {rank : String → Nat} {k : Nat} {done : List String}
    (distinct : ds.names.Nodup) (lower : ∀ name other, ds.Refers name other → rank other < rank name)
    (member : (name, cases) ∈ ds) (present : (table.get? name).isSome)
    (agrees : ∀ d ∈ ds, rank d.1 < k ∨ d.1 ∈ done ∧ rank d.1 ≤ k → table.Agrees d.1 d.2) :
    ∀ d ∈ ds, rank d.1 < k ∨ d.1 ∈ name :: done ∧ rank d.1 ≤ k →
      (table.set name (table.caseType cases)).Agrees d.1 d.2 := by
  rintro ⟨a, others⟩ listed settled
  have bounded : rank a ≤ k := by
    rcases settled with low | ⟨_, le⟩
    · exact Nat.le_of_lt low
    · exact le
  have written : (table.set name (table.caseType cases)).get? name =
      some (firstType table.get? cases) := by
    obtain ⟨t, found⟩ := Option.isSome_iff_exists.mp present
    rw [get?_set, if_pos rfl, found]
    rfl
  have kept {b : String} (different : b ≠ name) :
      (table.set name (table.caseType cases)).get? b = table.get? b := by
    rw [get?_set, if_neg different]
  unfold Agrees
  by_cases same : a = name
  · subst same
    cases Derivations.cases_unique distinct member listed
    rw [written, firstType_congr]
    intro b reads
    refine (kept ?_).symm
    rintro rfl
    exact Nat.lt_irrefl _
      (lower b b ⟨cases, member, reads, Derivations.mem_names member⟩)
  · have before : table.Agrees a others := by
      refine agrees (a, others) listed ?_
      rcases settled with low | ⟨here, le⟩
      · exact Or.inl low
      · exact Or.inr ⟨(List.mem_cons.mp here).resolve_left same, le⟩
    rw [kept same, before, firstType_congr]
    intro b reads
    by_cases changed : b = name
    · subst changed
      -- What is read here is of a lower rank, so it had its type already.
      have low := lower a b ⟨others, listed, reads, Derivations.mem_names member⟩
      rw [written, agrees (b, cases) member (Or.inl (Nat.lt_of_lt_of_le low bounded))]
    · exact (kept changed).symm

theorem agrees_pass {rank : String → Nat} {k : Nat} (distinct : ds.names.Nodup)
    (lower : ∀ name other, ds.Refers name other → rank other < rank name)
    (present : ∀ name ∈ ds.names, (table.get? name).isSome)
    (agrees : ∀ d ∈ ds, rank d.1 < k → table.Agrees d.1 d.2) :
    ∀ d ∈ ds, rank d.1 < k + 1 → (table.pass ds).Agrees d.1 d.2 := by
  -- The derivations that had their turn are `done`, those of `turns` are still to come.
  have step (turns : Derivations) : ∀ (table : TypeTable) (done : List String), turns ⊆ ds →
      (∀ name ∈ ds.names, (table.get? name).isSome) →
      (∀ d ∈ ds, rank d.1 < k ∨ d.1 ∈ done ∧ rank d.1 ≤ k → table.Agrees d.1 d.2) →
      ∀ d ∈ ds, rank d.1 < k ∨ (d.1 ∈ done ∨ d.1 ∈ turns.names) ∧ rank d.1 ≤ k →
        (table.pass turns).Agrees d.1 d.2 := by
    induction turns with
    | nil =>
      intro table done _ _ agrees d member settled
      refine agrees d member (settled.imp_right fun ⟨here, le⟩ => ⟨here.resolve_right ?_, le⟩)
      exact List.not_mem_nil
    | cons turn rest ih =>
      intro table done inside present agrees d member settled
      have listed : turn ∈ ds := inside List.mem_cons_self
      refine ih (table.set turn.1 (table.caseType turn.2)) (turn.1 :: done)
        (fun _ later => inside (List.mem_cons_of_mem _ later)) ?_
        (agrees_set distinct lower listed (present _ (Derivations.mem_names listed)) agrees)
        d member ?_
      · exact fun name there => isSome_get?_set (present name there)
      · refine settled.imp_right fun ⟨here, le⟩ => ⟨?_, le⟩
        simp only [Derivations.names, List.map_cons, List.mem_cons] at here ⊢
        tauto
  intro d member low
  refine step ds table [] (fun _ h => h) present ?_ d member
    (Or.inr ⟨Or.inr (Derivations.mem_names member), Nat.le_of_lt_succ low⟩)
  intro d member settled
  exact agrees d member (settled.resolve_right (by simp))

theorem agrees_passes {rank : String → Nat} {k : Nat} (distinct : ds.names.Nodup)
    (lower : ∀ name other, ds.Refers name other → rank other < rank name)
    (present : ∀ name ∈ ds.names, (table.get? name).isSome)
    (agrees : ∀ d ∈ ds, rank d.1 < k → table.Agrees d.1 d.2) :
    ∀ d ∈ ds, rank d.1 < k + n → (passes ds n table).Agrees d.1 d.2 := by
  induction n generalizing table k with
  | zero => exact agrees
  | succ n ih =>
    intro d member low
    refine ih (k := k + 1) ?_ (agrees_pass distinct lower present agrees) d member (by omega)
    exact fun name there => isSome_get?_pass (present name there)

/-- Without circles the passes give every derivation the type of its formulas. -/
theorem passes_agree_of_acyclic (distinct : ds.names.Nodup) (acyclic : ds.Acyclic)
    (present : ∀ name ∈ ds.names, (table.get? name).isSome) :
    ∀ d ∈ ds, (passes ds (ds.length + 1) table).Agrees d.1 d.2 := by
  obtain ⟨rank, lower, bounded⟩ := acyclic.exists_rank
  intro d member
  refine agrees_passes distinct lower present (k := 0) (fun _ _ low => absurd low (Nat.not_lt_zero _))
    d member ?_
  have := bounded d.1
  omega

/-! ### One more pass -/

/-- One more pass changes no type just if every derivation has the type of its formulas. -/
theorem pass_unchanged_iff (distinct : ds.names.Nodup)
    (present : ∀ name ∈ ds.names, (table.get? name).isSome) :
    (table.pass ds).get? = table.get? ↔ ∀ d ∈ ds, table.Agrees d.1 d.2 := by
  -- The table of a pass under way, as long as it still gives the types that it began with.
  suffices ∀ now : TypeTable, now.get? = table.get? →
      ((now.pass ds).get? = table.get? ↔ ∀ d ∈ ds, table.Agrees d.1 d.2) from this table rfl
  induction ds with
  | nil => exact fun now same => ⟨fun _ => by simp, fun _ => same⟩
  | cons d rest ih =>
    intro now same
    obtain ⟨t, found⟩ := Option.isSome_iff_exists.mp
      (present d.1 (Derivations.mem_names List.mem_cons_self))
    simp only [Derivations.names, List.map_cons, List.nodup_cons] at distinct
    have turn : (now.pass (d :: rest)) = (now.set d.1 (now.caseType d.2)).pass rest := rfl
    have type : now.caseType d.2 = firstType table.get? d.2 := congrArg (firstType · d.2) same
    have after : (now.set d.1 (now.caseType d.2)).get? d.1 = some (firstType table.get? d.2) := by
      rw [get?_set, if_pos rfl, same, found, type]
      rfl
    rw [turn, List.forall_mem_cons]
    have unchanged (agrees : table.Agrees d.1 d.2) :
        (now.set d.1 (now.caseType d.2)).get? = table.get? := by
      funext name
      by_cases here : name = d.1
      · rw [here, after, agrees]
      · rw [get?_set, if_neg here, same]
    have rest_iff (agrees : table.Agrees d.1 d.2) := ih distinct.2
      (fun name there => present name (List.mem_cons_of_mem _ there)) _ (unchanged agrees)
    constructor
    · intro fixed
      have agrees : table.Agrees d.1 d.2 := by
        have last := congrFun fixed d.1
        rw [get?_pass_of_not_mem distinct.1, after] at last
        exact last.symm
      exact ⟨agrees, (rest_iff agrees).mp fixed⟩
    · rintro ⟨agrees, others⟩
      exact (rest_iff agrees).mpr others

end TypeTable

end Questionnaire
