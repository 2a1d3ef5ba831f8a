import Mathlib.Data.List.Induction
import Mathlib.Data.Set.Function
import Questionnaire.Proofs.Outcome
import Questionnaire.Proofs.Parameter.Lookup
import Questionnaire.Run.Cache

/-!
What a cache keeps.

The entries of a cache and the order of their digests stay in step: `Coherent` holds of a new cache and is
kept by every request. A model that is kept has been kept since the request that made it, and the digests
stand in the order of these requests. With scripts that have different digests nobody can tell from the
models whether there is a cache: `cache_transparent`.
-/

namespace Questionnaire

namespace Cache

inductive Request
  | fetch (script : String)
  | clear
deriving DecidableEq

def step (c : Cache) : Request → Cache
  | .fetch script => (c.fetch script).2
  | .clear => c.clear

def after (c : Cache) (requests : List Request) : Cache := requests.foldl step c

/-- Entries and order are in step, and the serial numbers grow with the order. -/
structure Coherent (c : Cache) : Prop where
  listed : c.entries.map (·.1) = c.order
  distinct : c.order.Nodup
  bounded : c.size ≤ c.capacity
  growing : c.entries.Pairwise fun e e' => e.2.serial < e'.2.serial
  numbered : ∀ e ∈ c.entries, e.2.serial < c.made

/-- Every kept model is that of a script with its digest, which is among these. -/
def Faithful (scripts : Set String) (c : Cache) : Prop :=
  ∀ e ∈ c.entries, ∃ s ∈ scripts, Digest.ofText s = e.1 ∧ Model.ofText s = .ok e.2.model

variable {scripts : Set String} {c : Cache} {key other : Digest} {m : MadeModel} {script : String}
  {model : Model} {capacity : Nat} {request : Request} {requests more : List Request}

theorem Coherent.get?_eq_some (coherent : c.Coherent) : c.get? key = some m ↔ (key, m) ∈ c.entries := by
  have distinct : (c.entries.map (·.1)).Nodup := coherent.listed ▸ coherent.distinct
  rw [get?, Option.map_eq_some_iff]
  constructor
  · rintro ⟨e, found, rfl⟩
    obtain ⟨member, rfl⟩ := (find?_keyed distinct).mp found
    exact member
  · intro member
    exact ⟨_, (find?_keyed distinct).mpr ⟨member, rfl⟩, rfl⟩

theorem Coherent.get?_isSome (coherent : c.Coherent) : (c.get? key).isSome ↔ key ∈ c.order := by
  rw [← coherent.listed, List.mem_map, Option.isSome_iff_exists]
  simp only [coherent.get?_eq_some]
  constructor
  · rintro ⟨m, member⟩
    exact ⟨_, member, rfl⟩
  · rintro ⟨⟨_, m⟩, member, rfl⟩
    exact ⟨m, member⟩

theorem Coherent.not_mem_order (coherent : c.Coherent) (missing : c.get? key = none) :
    key ∉ c.order := by
  rw [← coherent.get?_isSome, missing]
  exact Bool.false_ne_true

theorem Coherent.length_order (coherent : c.Coherent) : c.order.length = c.size := by
  rw [← coherent.listed, List.length_map, size]

/-! ### Room for one more -/

theorem filter_ne_of_absent {entries : List (Digest × MadeModel)} (absent : key ∉ entries.map (·.1)) :
    entries.filter (·.1 ≠ key) = entries := by
  rw [List.filter_eq_self]
  intro e member
  rw [decide_eq_true_iff]
  rintro rfl
  exact absent (List.mem_map_of_mem member)

/-- As many of the oldest models go as there are too many. -/
theorem makeRoom_eq {order : List Digest} {entries : List (Digest × MadeModel)}
    (listed : entries.map (·.1) = order) (distinct : order.Nodup) :
    makeRoom capacity order entries =
      (order.drop (entries.length + 1 - capacity), entries.drop (entries.length + 1 - capacity)) := by
  induction entries generalizing order with
  | nil =>
    subst listed
    simp [makeRoom]
  | cons e entries ih =>
    subst listed
    rw [List.map_cons, List.nodup_cons] at distinct
    rw [List.map_cons, makeRoom]
    split
    · rename_i fits
      have none : (e :: entries).length + 1 - capacity = 0 := by omega
      rw [none]
      rfl
    · rename_i full
      have one : (e :: entries).length + 1 - capacity = entries.length + 1 - capacity + 1 := by
        rw [List.length_cons] at full ⊢
        omega
      have dropped : (e :: entries).filter (·.1 ≠ e.1) = entries := by
        rw [List.filter_cons_of_neg (by simp)]
        exact filter_ne_of_absent distinct.1
      rw [dropped, ih rfl distinct.2, one]
      rfl

theorem Coherent.keep_eq (coherent : c.Coherent) (missing : c.get? key = none) (room : c.capacity ≠ 0) :
    c.keep key model = ⟨c.capacity, c.entries.drop (c.size + 1 - c.capacity) ++ [(key, ⟨c.made, model⟩)],
      c.order.drop (c.size + 1 - c.capacity) ++ [key], c.made + 1⟩ := by
  have absent : key ∉ (c.entries.drop (c.size + 1 - c.capacity)).map (·.1) := by
    rw [List.map_drop, coherent.listed]
    exact fun member => coherent.not_mem_order missing (List.mem_of_mem_drop member)
  rw [keep, if_neg room, makeRoom_eq coherent.listed coherent.distinct]
  simp only [size] at absent ⊢
  rw [filter_ne_of_absent absent]

/-! ### One request -/

/-- A request for a script finds its model, or has nothing to keep, or makes the model and keeps it. -/
theorem fetch_cases (c : Cache) (script : String) :
    (∃ m, c.get? (Digest.ofText script) = some m ∧ c.fetch script = (.ok m, c)) ∨
      c.get? (Digest.ofText script) = none ∧
        ((∃ d, Model.ofText script = .error d ∧ c.fetch script = (.error d, c)) ∨
          ∃ model, Model.ofText script = .ok model ∧
            c.fetch script = (.ok ⟨c.made, model⟩, c.keep (Digest.ofText script) model)) := by
  cases found : c.get? (Digest.ofText script) with
  | some m =>
    left
    exact ⟨m, rfl, by simp only [fetch, found]⟩
  | none =>
    right
    cases made : Model.ofText script with
    | error d => exact ⟨rfl, Or.inl ⟨d, rfl, by simp only [fetch, found, made]⟩⟩
    | ok model => exact ⟨rfl, Or.inr ⟨model, rfl, by simp only [fetch, found, made]⟩⟩

/-- A request leaves a cache as it is, or clears it, or keeps a new model there. -/
theorem step_cases (c : Cache) (request : Request) :
    c.step request = c ∨ c.step request = c.clear ∨
      ∃ script model, request = .fetch script ∧ c.get? (Digest.ofText script) = none ∧
        Model.ofText script = .ok model ∧ (c.fetch script).1 = .ok ⟨c.made, model⟩ ∧
        c.step request = c.keep (Digest.ofText script) model := by
  cases request with
  | clear => exact Or.inr (Or.inl rfl)
  | fetch script =>
    rcases c.fetch_cases script with ⟨_, _, same⟩ | ⟨missing, ⟨_, _, same⟩ | ⟨model, made, same⟩⟩
    · left
      rw [step, same]
    · left
      rw [step, same]
    · right; right
      exact ⟨script, model, rfl, missing, made, by rw [same], by rw [step, same]⟩

theorem coherent_of_empty (noEntries : c.entries = []) (noOrder : c.order = []) : c.Coherent where
  listed := by rw [noEntries, noOrder, List.map_nil]
  distinct := noOrder ▸ List.nodup_nil
  bounded := by simp [size, noEntries]
  growing := noEntries ▸ List.Pairwise.nil
  numbered := by simp [noEntries]

theorem Coherent.keep (coherent : c.Coherent) (missing : c.get? key = none) :
    (c.keep key model).Coherent := by
  by_cases room : c.capacity = 0
  · rw [Cache.keep, if_pos room]
    exact { coherent with numbered := fun e member => Nat.lt_succ_of_lt (coherent.numbered e member) }
  · rw [coherent.keep_eq missing room]
    refine ⟨?_, ?_, ?_, ?_, ?_⟩
    · simp [List.map_drop, coherent.listed]
    · rw [List.nodup_append]
      refine ⟨coherent.distinct.sublist (List.drop_sublist _ _), List.nodup_singleton _, ?_⟩
      rintro k kept _ new rfl
      rw [List.mem_singleton.mp new] at kept
      exact coherent.not_mem_order missing (List.mem_of_mem_drop kept)
    · have bounded := coherent.bounded
      simp only [size, List.length_append, List.length_drop, List.length_singleton] at bounded ⊢
      omega
    · rw [List.pairwise_append]
      refine ⟨coherent.growing.sublist (List.drop_sublist _ _), List.pairwise_singleton _ _, ?_⟩
      intro e kept e' new
      rw [List.mem_singleton.mp new]
      exact coherent.numbered e (List.mem_of_mem_drop kept)
    · intro e member
      rcases List.mem_append.mp member with kept | new
      · exact Nat.lt_succ_of_lt (coherent.numbered e (List.mem_of_mem_drop kept))
      · rw [List.mem_singleton.mp new]
        exact Nat.lt_succ_self _

theorem Coherent.step (coherent : c.Coherent) (request : Request) : (c.step request).Coherent := by
  rcases c.step_cases request with same | same | ⟨_, _, _, missing, _, _, same⟩
  · rwa [same]
  · rw [same]
    exact coherent_of_empty rfl rfl
  · rw [same]
    exact coherent.keep missing

theorem Coherent.get?_keep (coherent : c.Coherent) (missing : c.get? key = none) (room : c.capacity ≠ 0) :
    (c.keep key model).get? other = some m ↔
      (other, m) ∈ c.entries.drop (c.size + 1 - c.capacity) ∨ other = key ∧ m = ⟨c.made, model⟩ := by
  rw [(coherent.keep missing).get?_eq_some, coherent.keep_eq missing room, List.mem_append,
    List.mem_singleton, Prod.mk.injEq]

/-- What is kept after a request was kept before it, or the request made it. -/
theorem Coherent.get?_step (coherent : c.Coherent) (found : (c.step request).get? key = some m) :
    c.get? key = some m ∨ c.get? key = none ∧ m.serial = c.made ∧
      ∃ script, request = .fetch script ∧ Digest.ofText script = key ∧ (c.fetch script).1 = .ok m := by
  rcases c.step_cases request with same | same | ⟨script, model, asked, missing, _, answer, same⟩
  · left
    rwa [same] at found
  · rw [same] at found
    cases found
  · rw [same] at found
    by_cases room : c.capacity = 0
    · left
      rwa [Cache.keep, if_pos room] at found
    · rcases (coherent.get?_keep missing room).mp found with kept | ⟨rfl, rfl⟩
      · left
        exact coherent.get?_eq_some.mpr (List.mem_of_mem_drop kept)
      · right
        exact ⟨missing, rfl, script, asked, rfl, answer⟩

theorem Faithful.step (faithful : c.Faithful scripts) (coherent : c.Coherent)
    (asked : ∀ script, request = .fetch script → script ∈ scripts) :
    (c.step request).Faithful scripts := by
  rcases c.step_cases request with same | same | ⟨script, model, rfl, missing, made, _, same⟩
  · rwa [same]
  · rw [same]
    exact nofun
  · rw [same]
    by_cases room : c.capacity = 0
    · rwa [keep, if_pos room]
    · rw [coherent.keep_eq missing room]
      intro e member
      rcases List.mem_append.mp member with kept | new
      · exact faithful e (List.mem_of_mem_drop kept)
      · rw [List.mem_singleton.mp new]
        exact ⟨script, asked script rfl, rfl, made⟩

/-- A cache answers with what it would take to make the model anew. -/
theorem Faithful.fetch_model (faithful : c.Faithful scripts) (coherent : c.Coherent)
    (distinct : scripts.InjOn Digest.ofText) (asked : script ∈ scripts) :
    (c.fetch script).1.map (·.model) = Model.ofText script := by
  rcases c.fetch_cases script with ⟨m, found, same⟩ | ⟨_, ⟨d, failed, same⟩ | ⟨model, made, same⟩⟩
  · obtain ⟨s, listed, digest, made⟩ := faithful _ (coherent.get?_eq_some.mp found)
    have here : s = script := distinct listed asked digest
    rw [same, ← here, made]
    rfl
  · rw [same, failed]
    rfl
  · rw [same, made]
    rfl

theorem keep_made (c : Cache) (key : Digest) (model : Model) : (c.keep key model).made = c.made + 1 := by
  unfold keep
  split <;> rfl

theorem keep_capacity (c : Cache) (key : Digest) (model : Model) :
    (c.keep key model).capacity = c.capacity := by
  unfold keep
  split <;> rfl

/-! ### All requests -/

theorem after_concat (c : Cache) (requests : List Request) (request : Request) :
    c.after (requests ++ [request]) = (c.after requests).step request := by
  rw [after, List.foldl_concat]
  rfl

theorem Coherent.after (coherent : c.Coherent) (requests : List Request) :
    (c.after requests).Coherent := by
  induction requests using List.reverseRecOn with
  | nil => exact coherent
  | append_singleton requests request ih =>
    rw [after_concat]
    exact ih.step request

theorem coherent_after (capacity : Nat) (requests : List Request) :
    ((ofCapacity capacity).after requests).Coherent :=
  (coherent_of_empty rfl rfl).after requests

theorem faithful_after (asked : ∀ script, .fetch script ∈ requests → script ∈ scripts) :
    ((ofCapacity capacity).after requests).Faithful scripts := by
  induction requests using List.reverseRecOn with
  | nil => exact nofun
  | append_singleton requests request ih =>
    rw [after_concat]
    refine (ih fun script member => asked script (List.mem_append_left _ member)).step
      (coherent_after capacity requests) ?_
    rintro script rfl
    exact asked script (List.mem_append_right _ (List.mem_singleton.mpr rfl))

theorem after_capacity (c : Cache) (requests : List Request) :
    (c.after requests).capacity = c.capacity := by
  induction requests using List.reverseRecOn with
  | nil => rfl
  | append_singleton requests request ih =>
    rw [after_concat, ← ih]
    rcases (c.after requests).step_cases request with same | same | ⟨_, _, _, _, _, _, same⟩
    · rw [same]
    · rw [same]
      rfl
    · rw [same, keep_capacity]

theorem made_le_after (c : Cache) (requests : List Request) : c.made ≤ (c.after requests).made := by
  induction requests using List.reverseRecOn with
  | nil => exact Nat.le_refl _
  | append_singleton requests request ih =>
    rw [after_concat]
    refine ih.trans ?_
    rcases (c.after requests).step_cases request with same | same | ⟨_, _, _, _, _, _, same⟩
    · rw [same]
    · rw [same]
      exact Nat.le_refl _
    · rw [same, keep_made]
      exact Nat.le_succ _

/-! ### Since when a model is kept -/

/-- The model under a digest came in with the request of this number, which it answered, and it has been
there ever since. -/
structure KeptSince (start : Cache) (requests : List Request) (key : Digest) (m : MadeModel)
    (number : Nat) : Prop where
  asked : ∃ script, requests[number]? = some (.fetch script) ∧ Digest.ofText script = key ∧
    ((start.after (requests.take number)).fetch script).1 = .ok m
  missing : (start.after (requests.take number)).get? key = none
  serial : m.serial = (start.after (requests.take number)).made
  kept : ∀ later, number < later → later ≤ requests.length →
    (start.after (requests.take later)).get? key = some m

theorem Coherent.keptSince (coherent : c.Coherent)
    (found : (c.after requests).get? key = some m) (new : c.get? key = none) :
    ∃ number, c.KeptSince requests key m number := by
  induction requests using List.reverseRecOn with
  | nil =>
    rw [Cache.after, List.foldl_nil, new] at found
    cases found
  | append_singleton requests request ih =>
    have here := found
    rw [after_concat] at found
    rcases (coherent.after requests).get?_step found with before | ⟨missing, serial, script, rfl, digest, answer⟩
    · obtain ⟨number, since⟩ := ih before
      obtain ⟨script, asked, answer⟩ := since.asked
      obtain ⟨inside, _⟩ := List.getElem?_eq_some_iff.mp asked
      have early : (requests ++ [request]).take number = requests.take number :=
        List.take_append_of_le_length inside.le
      refine ⟨number, ⟨script, ?_, ?_⟩, ?_, ?_, ?_⟩
      · rw [List.getElem?_append_left inside, asked]
      · rwa [early]
      · rw [early]
        exact since.missing
      · rw [early]
        exact since.serial
      · intro later after within
        rw [List.length_append, List.length_singleton] at within
        by_cases last : later = requests.length + 1
        · rwa [List.take_of_length_le (by simp [last])]
        · rw [List.take_append_of_le_length (by omega)]
          exact since.kept later after (by omega)
    · have early : (requests ++ [Request.fetch script]).take requests.length = requests :=
        List.take_left
      refine ⟨requests.length, ⟨script, ?_, digest, ?_⟩, ?_, ?_, ?_⟩
      · simp
      · rwa [early]
      · rwa [early]
      · rwa [early]
      · intro later after within
        rw [List.length_append, List.length_singleton] at within
        rwa [List.take_of_length_le (by simp; omega)]

theorem KeptSince.lt {m' : MadeModel} {number number' : Nat}
    (since : c.KeptSince requests key m number) (since' : c.KeptSince requests other m' number')
    (lower : m.serial < m'.serial) : number < number' := by
  by_contra later
  obtain ⟨more, split⟩ := List.take_prefix_take_left (l := requests) (Nat.le_of_not_lt later)
  have grows := made_le_after (c.after (requests.take number')) more
  rw [after, after, ← List.foldl_append, split] at grows
  rw [since.serial, since'.serial] at lower
  exact absurd lower (Nat.not_lt.mpr grows)

theorem KeptSince.now {number : Nat} (since : c.KeptSince requests key m number) :
    (c.after requests).get? key = some m := by
  obtain ⟨_, asked, _⟩ := since.asked
  obtain ⟨inside, _⟩ := List.getElem?_eq_some_iff.mp asked
  have kept := since.kept requests.length inside (Nat.le_refl _)
  rwa [List.take_length] at kept

/-- The digests stand in the order in which their models came in. -/
theorem Coherent.order_pairwise (coherent : (c.after requests).Coherent) :
    (c.after requests).order.Pairwise fun key other => ∀ m m' number number',
      c.KeptSince requests key m number → c.KeptSince requests other m' number' → number < number' := by
  rw [← coherent.listed, List.pairwise_map]
  refine coherent.growing.imp_of_mem ?_
  intro e e' member member' lower m m' number number' since since'
  have same := (coherent.get?_eq_some.mpr member).symm.trans since.now
  have same' := (coherent.get?_eq_some.mpr member').symm.trans since'.now
  cases same
  cases same'
  exact since.lt since' lower

/-- How a new model comes in: there is never room, there is room for it, or the oldest model goes. -/
inductive Enters (c : Cache) (key : Digest) (m : MadeModel) (c' : Cache) : Prop
  | never (none : c.capacity = 0) (order : c'.order = []) (entries : c'.entries = [])
  | fits (room : c.size < c.capacity) (order : c'.order = c.order ++ [key])
      (kept : ∀ other, c'.get? other = if other = key then some m else c.get? other)
  | evicts (full : c.size = c.capacity) (oldest : Digest) (rest : List Digest)
      (before : c.order = oldest :: rest) (order : c'.order = rest ++ [key])
      (kept : ∀ other, c'.get? other =
        if other = key then some m else if other = oldest then none else c.get? other)

theorem Coherent.absent (coherent : c.Coherent) (missing : c.get? key = none) (m : MadeModel) :
    (key, m) ∉ c.entries := by
  rw [← coherent.get?_eq_some, missing]
  exact nofun

theorem Coherent.enters_of_room (coherent : c.Coherent) (missing : c.get? key = none)
    (room : c.size < c.capacity) : c.Enters key ⟨c.made, model⟩ (c.keep key model) := by
  have some : c.capacity ≠ 0 := Nat.ne_zero_of_lt room
  have none : c.size + 1 - c.capacity = 0 := by omega
  refine .fits room ?_ fun other => ?_
  · rw [coherent.keep_eq missing some]
    simp only [none, List.drop_zero]
  · ext m
    rw [coherent.get?_keep missing some, none, List.drop_zero]
    by_cases new : other = key
    · subst new
      simp [coherent.absent missing m, eq_comm]
    · simp [new, coherent.get?_eq_some]

theorem Coherent.enters_of_full (coherent : c.Coherent) (missing : c.get? key = none)
    (full : c.size = c.capacity) (some : c.capacity ≠ 0) :
    c.Enters key ⟨c.made, model⟩ (c.keep key model) := by
  have one : c.size + 1 - c.capacity = 1 := by omega
  obtain ⟨⟨oldest, first⟩, entries, split⟩ : ∃ e entries, c.entries = e :: entries :=
    List.exists_cons_of_ne_nil fun empty => some (by rw [← full, size, empty, List.length_nil])
  have order : c.order = oldest :: entries.map (·.1) := by rw [← coherent.listed, split, List.map_cons]
  have gone (m : MadeModel) : (oldest, m) ∉ entries := by
    have distinct := coherent.distinct
    rw [order, List.nodup_cons] at distinct
    exact fun member => distinct.1 (List.mem_map_of_mem (f := (·.1)) member)
  refine .evicts full oldest (entries.map (·.1)) order ?_ fun other => ?_
  · rw [coherent.keep_eq missing some]
    simp only [one, order, List.drop_one, List.tail_cons]
  · ext m
    rw [coherent.get?_keep missing some, one, split, List.drop_one, List.tail_cons]
    by_cases new : other = key
    · subst new
      have later : (other, m) ∉ entries := fun member =>
        coherent.absent missing m (split ▸ List.mem_cons_of_mem _ member)
      simp [later, eq_comm]
    · by_cases old : other = oldest
      · subst old
        simp [new, gone m]
      · simp [new, old, coherent.get?_eq_some, split]

theorem Coherent.enters (coherent : c.Coherent) (missing : c.get? key = none) :
    c.Enters key ⟨c.made, model⟩ (c.keep key model) := by
  have bounded := coherent.bounded
  by_cases some : c.capacity = 0
  · have noEntries : c.entries = [] :=
      List.eq_nil_of_length_eq_zero (Nat.le_zero.mp (some ▸ bounded))
    have noOrder : c.order = [] := by rw [← coherent.listed, noEntries, List.map_nil]
    refine .never some ?_ ?_
    · rw [Cache.keep, if_pos some, noOrder]
    · rw [Cache.keep, if_pos some, noEntries]
  · rcases Nat.lt_or_eq_of_le bounded with room | full
    · exact coherent.enters_of_room missing room
    · exact coherent.enters_of_full missing full some

/-! ### What a cache guarantees -/

/-- What is kept after these requests. -/
structure Keeps (c : Cache) (capacity : Nat) (requests : List Request) : Prop where
  distinct : c.order.Nodup
  keys : ∀ key, key ∈ c.order ↔ (c.get? key).isSome
  counted : c.order.length = c.size
  bounded : c.size ≤ capacity
  since : ∀ key m, c.get? key = some m → ∃ number, (ofCapacity capacity).KeptSince requests key m number
  inOrder : c.order.Pairwise fun key other => ∀ m m' number number',
    (ofCapacity capacity).KeptSince requests key m number →
      (ofCapacity capacity).KeptSince requests other m' number' → number < number'

structure Serves (c : Cache) (script : String) : Prop where
  answer : (c.fetch script).1.map (·.model) = Model.ofText script
  failed : ∀ d, Model.ofText script = .error d → c.fetch script = (.error d, c)
  hit : ∀ m, c.get? (Digest.ofText script) = some m → c.fetch script = (.ok m, c)
  made : ∀ model, c.get? (Digest.ofText script) = none → Model.ofText script = .ok model →
    (c.fetch script).1 = .ok ⟨c.made, model⟩ ∧
      c.Enters (Digest.ofText script) ⟨c.made, model⟩ (c.fetch script).2

theorem keeps_after (capacity : Nat) (requests : List Request) :
    ((ofCapacity capacity).after requests).Keeps capacity requests := by
  have coherent := coherent_after capacity requests
  have bounded := coherent.bounded
  rw [after_capacity] at bounded
  exact {
    distinct := coherent.distinct
    keys := fun _ => coherent.get?_isSome.symm
    counted := coherent.length_order
    bounded
    since := fun _ _ found => (coherent_of_empty rfl rfl).keptSince found rfl
    inOrder := coherent.order_pairwise }

theorem Coherent.serves (coherent : c.Coherent) (faithful : c.Faithful scripts)
    (distinct : scripts.InjOn Digest.ofText) (asked : script ∈ scripts) : c.Serves script := by
  have answer := faithful.fetch_model coherent distinct asked
  refine ⟨answer, ?_, ?_, ?_⟩
  · intro d failed
    rcases c.fetch_cases script with ⟨_, _, same⟩ | ⟨_, ⟨_, again, same⟩ | ⟨_, made, _⟩⟩
    · rw [same, failed] at answer
      cases answer
    · cases failed.symm.trans again
      exact same
    · cases failed.symm.trans made
  · intro m found
    rcases c.fetch_cases script with ⟨_, again, same⟩ | ⟨missing, _⟩
    · cases found.symm.trans again
      exact same
    · cases found.symm.trans missing
  · intro model missing made
    rcases c.fetch_cases script with ⟨_, found, _⟩ | ⟨_, ⟨_, failed, _⟩ | ⟨_, again, same⟩⟩
    · cases found.symm.trans missing
    · cases made.symm.trans failed
    · cases made.symm.trans again
      rw [same]
      exact ⟨rfl, coherent.enters missing⟩

end Cache

/-! ### Runs with a cache -/

/-- The results of scripts on answers, one after the other. -/
def Runner.executeAll (r : Runner) : List (String × ParameterStore) → List (Except Failure Result)
  | [] => []
  | (script, answers) :: runs =>
    (r.execute script answers).1 :: (r.execute script answers).2.executeAll runs

section

variable {scripts : Set String} {r : Runner} {script : String}

theorem Runner.execute_eq (r : Runner) (script : String) (answers : ParameterStore)
    (answer : (r.cache.fetch script).1.map (·.model) = Model.ofText script) :
    r.execute script answers =
      (Questionnaire.execute r.config script answers, ⟨r.config, r.cache.step (.fetch script)⟩) := by
  unfold Runner.execute Questionnaire.execute Runner.fetch
  rw [← answer, Cache.step]
  obtain ⟨made, cache⟩ := r.cache.fetch script
  cases made <;> rfl

theorem Runner.executeAll_eq (coherent : r.cache.Coherent) (faithful : r.cache.Faithful scripts)
    (distinct : scripts.InjOn Digest.ofText) (runs : List (String × ParameterStore))
    (asked : ∀ run ∈ runs, run.1 ∈ scripts) :
    r.executeAll runs = runs.map fun run => Questionnaire.execute r.config run.1 run.2 := by
  induction runs generalizing r with
  | nil => rfl
  | cons run runs ih =>
    have here : run.1 ∈ scripts := asked run List.mem_cons_self
    have same := r.execute_eq run.1 run.2 (faithful.fetch_model coherent distinct here)
    have later := ih (r := ⟨r.config, r.cache.step (.fetch run.1)⟩) (coherent.step (.fetch run.1))
      (faithful.step coherent fun script asked => by cases asked; exact here)
      fun run member => asked run (List.mem_cons_of_mem _ member)
    rw [Runner.executeAll, same, later, List.map_cons]

end

/-- A cache of any capacity keeps its order and its models in step after any requests, and answers each
request for a script with the model that would be made anew. Where the model is kept, it is the one that was
made when it came in; where it is new, it comes in at the end, in the place of the oldest one if there is no
room. So results do not depend on the cache. -/
theorem cache_transparent {scripts : Set String} (distinct : scripts.InjOn Digest.ofText) :
    (∀ (capacity : Nat) (requests : List Cache.Request),
      (∀ script, .fetch script ∈ requests → script ∈ scripts) →
        ((Cache.ofCapacity capacity).after requests).Keeps capacity requests ∧
        ∀ script ∈ scripts, ((Cache.ofCapacity capacity).after requests).Serves script) ∧
      ∀ (config : Config) (runs : List (String × ParameterStore)), (∀ run ∈ runs, run.1 ∈ scripts) →
        (Runner.ofConfig config).executeAll runs = runs.map fun run => execute config run.1 run.2 := by
  constructor
  · intro capacity requests asked
    refine ⟨Cache.keeps_after capacity requests, fun script here => ?_⟩
    exact (Cache.coherent_after capacity requests).serves (Cache.faithful_after asked) distinct here
  · intro config runs asked
    have empty : (Runner.ofConfig config).cache.Faithful scripts := fun _ member =>
      absurd member List.not_mem_nil
    exact Runner.executeAll_eq (Cache.coherent_of_empty rfl rfl) empty distinct runs asked

def choiceScript (id : String) : String := "steps:\n  - id: " ++ id ++ "\n    choice: [huur, koop]\n"

def fewScripts : List String := [choiceScript "een", choiceScript "twee", choiceScript "drie", "steps: ["]

/-- Two models are made, one of them is asked for again, a script has a defect, and for the third model the
first one goes. -/
def fewRequests : List Cache.Request :=
  [.fetch (choiceScript "een"), .fetch (choiceScript "twee"), .fetch (choiceScript "een"),
    .fetch "steps: [", .fetch (choiceScript "drie")]

theorem cache_transparent_few :
    Set.InjOn Digest.ofText {script | script ∈ fewScripts} ∧
      (∀ script, .fetch script ∈ fewRequests → script ∈ fewScripts) ∧
      ((Cache.ofCapacity 2).after fewRequests).order =
        [Digest.ofText (choiceScript "twee"), Digest.ofText (choiceScript "drie")] ∧
      ((Cache.ofCapacity 2).after fewRequests).Keeps 2 fewRequests ∧
      ((Cache.ofCapacity 2).after fewRequests).Serves (choiceScript "een") ∧
      (Runner.ofConfig { cacheCapacity := 1 }).executeAll
        [(choiceScript "een", .empty), (choiceScript "twee", .empty), (choiceScript "een", .empty)] =
          [execute { cacheCapacity := 1 } (choiceScript "een") .empty,
            execute { cacheCapacity := 1 } (choiceScript "twee") .empty,
            execute { cacheCapacity := 1 } (choiceScript "een") .empty] := by
  obtain ⟨digests, order⟩ : (fewScripts.map Digest.ofText).Nodup ∧
      ((Cache.ofCapacity 2).after fewRequests).order =
        [Digest.ofText (choiceScript "twee"), Digest.ofText (choiceScript "drie")] := by decide +kernel
  have distinct : Set.InjOn Digest.ofText {script | script ∈ fewScripts} :=
    fun s here t there same => List.inj_on_of_nodup_map digests here there same
  have asked : ∀ script, Cache.Request.fetch script ∈ fewRequests → script ∈ fewScripts := by
    intro script member
    simp only [fewRequests, List.mem_cons, Cache.Request.fetch.injEq, List.not_mem_nil, or_false] at member
    rcases member with rfl | rfl | rfl | rfl | rfl <;> simp [fewScripts]
  obtain ⟨requested, ran⟩ := cache_transparent distinct
  obtain ⟨keeps, serves⟩ := requested 2 fewRequests asked
  refine ⟨distinct, asked, order, keeps, serves _ (by simp [fewScripts]), ?_⟩
  exact ran { cacheCapacity := 1 } _ (by simp [fewScripts])

end Questionnaire
