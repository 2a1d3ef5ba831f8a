import Questionnaire.Proofs.Yaml.Words

/-!
States of the splitting into tokens.

A state is told by the text ahead and by the tokens behind: `Stands`. Marks are left out, and so is which
keys are still possible, as a key that is not required may be given up at any time. What leads from one such
state to the next is put together with `Leads.trans`.
-/

namespace Questionnaire.Yaml.TokenStream

variable {x c : Char} {w cs rest : List Char}
variable {s t : TokenStream} {n flow : Nat} {kinds : List TokenKind} {indents : List Nat} {allowed : Bool}
  {kind : TokenKind}

/-- The text ahead, the tokens behind, and what else decides what comes next. Nothing was taken yet. -/
structure Stands (rest : List Char) (kinds : List TokenKind) (indents : List Nat) (flow : Nat) (allowed : Bool)
    (s : TokenStream) : Prop where
  rest : s.cursor.rest = rest
  kinds : s.queue.map (·.kind) = kinds
  indents : s.indents = indents
  flow : s.flow = flow
  allowed : s.keyAllowed = allowed
  taken : s.taken = 0
  unended : s.ended = false
  loose : s.Loose

/-- Reading leads to a state of a kind. -/
def Leads (s : TokenStream) (p : TokenStream → Prop) : Prop := ∃ t, Reads s t ∧ p t

theorem Leads.trans {p q : TokenStream → Prop} (leads : s.Leads p) (follows : ∀ t, p t → t.Leads q) :
    s.Leads q := by
  obtain ⟨t, first, holds⟩ := leads
  obtain ⟨u, second, holds⟩ := follows t holds
  exact ⟨u, first.trans second, holds⟩

variable {cs' : List Char} {kinds' : List TokenKind} {indents' : List Nat} {flow' : Nat} {allowed' : Bool}

theorem Stands.leads_then {p : TokenStream → Prop} (stands : Stands cs kinds indents flow allowed s)
    (read : s.fetch = .ok t) (next : Stands cs' kinds' indents' flow' allowed' t) (less : cs'.length < cs.length)
    (later : t.Leads p) : s.Leads p := by
  obtain ⟨u, reads, holds⟩ := later
  refine ⟨u, .head stands.unended read ?_ reads, holds⟩
  simp only [left, stands.rest, next.rest, stands.unended, next.unended]
  exact Nat.add_lt_add_right less 1

theorem Stands.leads (stands : Stands cs kinds indents flow allowed s) (read : s.fetch = .ok t)
    (next : Stands cs' kinds' indents' flow' allowed' t) (less : cs'.length < cs.length) :
    s.Leads (Stands cs' kinds' indents' flow' allowed') :=
  stands.leads_then read next less ⟨t, .refl t, next⟩

theorem Stands.withKeys {keys : List (Option PossibleKey)} (stands : Stands cs kinds indents flow allowed s)
    (length : keys.length = flow + 1) (free : ∀ key ∈ keys, ∀ k ∈ key, k.required = false) :
    Stands cs kinds indents flow allowed { s with keys := keys } :=
  ⟨stands.rest, stands.kinds, stands.indents, stands.flow, stands.allowed, stands.taken, stands.unended,
    by rw [length, ← stands.flow], free⟩

theorem Stands.keys_length (stands : Stands cs kinds indents flow allowed s) : s.keys.length = flow + 1 := by
  rw [stands.loose.length, stands.flow]

/-! ### Keys -/

theorem Stands.forget (stands : Stands cs kinds indents flow allowed s) :
    s.forgetKey = .ok { s with keys := none :: s.keys.drop 1 } ∧
      Stands cs kinds indents flow allowed { s with keys := none :: s.keys.drop 1 } := by
  have length := stands.keys_length
  refine ⟨?_, stands.withKeys (by simp [length]) ?_⟩
  · rcases keys : s.keys with _ | ⟨_ | key, keys'⟩
    · rw [keys] at length
      cases length
    · have same : s = { s with keys := none :: keys' } := by
        rw [← keys]
      unfold forgetKey
      rw [keys]
      exact congrArg Except.ok same
    · have free := stands.loose.free (some key) (keys ▸ List.mem_cons_self) key rfl
      unfold forgetKey
      simp [keys, free]
  · exact List.forall_mem_cons.mpr
      ⟨forall_mem_none, fun key member => stands.loose.free key (List.mem_of_mem_drop member)⟩

/-- Whether a key is not required: in a flow collection, or where the block does not begin. -/
def Optional (s : TokenStream) : Prop := s.flow ≠ 0 ∨ s.indents.head? ≠ some s.mark.column

theorem Stands.save (stands : Stands cs kinds indents flow allowed s) (optional : s.Optional) :
    ∃ keys, s.saveKey = .ok { s with keys := keys } ∧
      Stands cs kinds indents flow allowed { s with keys := keys } ∧
      (allowed = true → keys = some ⟨false, s.queue.length, s.mark⟩ :: s.keys.drop 1) := by
  have free : (s.flow == 0 && s.indents.head? == some s.mark.column) = false := by
    rw [Bool.and_eq_false_iff, beq_eq_false_iff_ne, beq_eq_false_iff_ne]
    exact optional
  have length := stands.keys_length
  cases allowed with
  | false =>
    refine ⟨s.keys, if_neg ?_, stands.withKeys length stands.loose.free, nofun⟩
    rw [stands.allowed]
    exact Bool.false_ne_true
  | true =>
    refine ⟨some ⟨false, s.queue.length, s.mark⟩ :: s.keys.drop 1, ?_, stands.withKeys (by simp [length]) ?_,
      fun _ => rfl⟩
    · refine (if_pos stands.allowed).trans ?_
      simp only [stands.forget.1, free, stands.taken, Nat.zero_add]
      rfl
    · exact List.forall_mem_cons.mpr ⟨forall_mem_some.mpr rfl, fun key member =>
        stands.loose.free key (List.mem_of_mem_drop member)⟩

/-! ### Tokens -/

theorem Stands.accept (stands : Stands (w ++ cs) kinds indents flow allowed s) (kind : TokenKind) (start : Mark)
    (allowed' : Bool) : Stands cs (kinds ++ [kind]) indents flow allowed'
      ((s.allowKey allowed').accept
        (⟨kind, start, (s.cursor.skip w.length).mark⟩, s.cursor.skip w.length)) where
  rest := by
    show s.cursor.rest.drop w.length = cs
    rw [stands.rest, List.drop_left]
  kinds := by
    show (s.queue ++ [Token.mk kind start (s.cursor.skip w.length).mark]).map Token.kind = _
    rw [List.map_append, ← stands.kinds]
    rfl
  indents := stands.indents
  flow := stands.flow
  allowed := rfl
  taken := stands.taken
  unended := stands.unended
  loose := ⟨stands.loose.length, stands.loose.free⟩

theorem Stands.mark? (stands : Stands (x :: cs) kinds indents flow allowed s) (kind : TokenKind)
    (allowed' : Bool) :
    Stands cs (kinds ++ [kind]) indents flow allowed' ((s.allowKey allowed').mark? kind 1) :=
  Stands.accept (w := [x]) stands kind s.mark allowed'

theorem Stands.fetchOpening (stands : Stands (x :: cs) kinds indents flow allowed s) (optional : s.Optional)
    (kind : TokenKind) :
    ∃ t, s.fetchOpening kind = .ok t ∧ Stands cs (kinds ++ [kind]) indents (flow + 1) true t := by
  obtain ⟨keys, saved, next, -⟩ := stands.save optional
  have opened : Stands (x :: cs) kinds indents (flow + 1) allowed
      { s with keys := none :: keys, flow := s.flow + 1 } :=
    ⟨next.rest, next.kinds, next.indents, congrArg (· + 1) next.flow, next.allowed, next.taken, next.unended,
      congrArg (· + 1) next.loose.length, List.forall_mem_cons.mpr ⟨forall_mem_none, next.loose.free⟩⟩
  exact ⟨_, bind_ok.mpr ⟨_, saved, rfl⟩, opened.mark? kind true⟩

theorem Stands.fetchClosing (stands : Stands (x :: cs) kinds indents (flow + 1) allowed s) (kind : TokenKind) :
    ∃ t, s.fetchClosing kind = .ok t ∧ Stands cs (kinds ++ [kind]) indents flow false t := by
  obtain ⟨forgot, next⟩ := stands.forget
  have inside : ¬s.flow = 0 := by
    rw [stands.flow]
    exact Nat.succ_ne_zero flow
  have closed : Stands (x :: cs) kinds indents flow allowed
      { s with keys := s.keys.drop 1, flow := s.flow - 1 } := by
    refine ⟨next.rest, next.kinds, next.indents, ?_, next.allowed, next.taken, next.unended, ?_, ?_⟩
    · show s.flow - 1 = flow
      rw [stands.flow]
      rfl
    · show (s.keys.drop 1).length = s.flow - 1 + 1
      rw [List.length_drop, stands.keys_length, stands.flow]
      rfl
    · exact fun key member => stands.loose.free key (List.mem_of_mem_drop member)
  refine ⟨_, bind_ok.mpr ⟨_, forgot, ?_⟩, closed.mark? kind false⟩
  simp only [inside, ↓reduceIte]
  rfl

theorem Stands.fetchComma (stands : Stands (x :: cs) kinds indents flow allowed s) :
    ∃ t, s.fetchComma = .ok t ∧ Stands cs (kinds ++ [.flowEntry]) indents flow true t := by
  obtain ⟨forgot, next⟩ := stands.forget
  exact ⟨_, bind_ok.mpr ⟨_, forgot, rfl⟩, next.mark? .flowEntry true⟩

theorem Stands.fetchPlain (stands : Stands (w ++ cs) kinds indents flow allowed s) (optional : s.Optional)
    (word : IsWord w) (ends : PlainScalar.Ends (s.flow != 0) cs) :
    ∃ keys, s.fetchPlain = .ok (({ s with keys := keys }.allowKey false).accept
        (⟨.scalar (String.ofList w) .plain, s.mark, (s.cursor.skip w.length).mark⟩,
          s.cursor.skip w.length)) ∧
      Stands (w ++ cs) kinds indents flow allowed { s with keys := keys } ∧
      (allowed = true → keys = some ⟨false, s.queue.length, s.mark⟩ :: s.keys.drop 1) := by
  obtain ⟨keys, saved, next, first⟩ := stands.save optional
  refine ⟨keys, bind_ok.mpr ⟨_, saved, ?_⟩, next, first⟩
  simp only [PlainScalar.scan_word word stands.rest ends]
  rfl

/-! ### Fetching the next token -/

theorem Stands.optional (stands : Stands cs kinds indents flow allowed s) (level : flow ≠ 0 ∨ indents = []) :
    s.Optional := by
  unfold Optional
  rw [stands.flow, stands.indents]
  exact level.imp_right fun outermost => by rw [outermost]; exact nofun

theorem Stands.moved (stands : Stands cs kinds indents flow allowed s) (c : Cursor) (allowed' : Bool) :
    Stands c.rest kinds indents flow allowed' { s with
      cursor := c, keyAllowed := allowed', keys := s.keys.map (Option.filter (isFresh c.mark)) } := by
  refine ⟨rfl, stands.kinds, stands.indents, stands.flow, rfl, stands.taken, stands.unended, ?_, ?_⟩
  · exact (List.length_map _).trans stands.loose.length
  · intro key member k present
    obtain ⟨old, listed, rfl⟩ := List.mem_map.mp member
    exact stands.loose.free old listed k (Option.mem_filter_iff.mp present).1

/-- The next token is fetched from where the cursor is then. -/
theorem Stands.fetch_moved (stands : Stands cs kinds indents flow allowed s) {c : Cursor}
    (moved : skipToToken (s.cursor.rest.length + 1) s = { s with cursor := c, keyAllowed := allowed' }) :
    s.fetch = ({ s with
        cursor := c, keyAllowed := allowed',
        keys := s.keys.map (Option.filter (isFresh c.mark)) }.unroll (some c.mark.column)).fetchHere := by
  have loose : Loose { s with cursor := c, keyAllowed := allowed' } := ⟨stands.loose.length, stands.loose.free⟩
  exact loose.fetch_eq moved

theorem Stands.fetch_shallow (stands : Stands cs kinds indents flow allowed s) {c : Cursor}
    (moved : skipToToken (s.cursor.rest.length + 1) s = { s with cursor := c, keyAllowed := allowed' })
    (shallow : flow ≠ 0 ∨ ∀ indent ∈ indents.head?, indent ≤ c.mark.column) :
    s.fetch = { s with
        cursor := c, keyAllowed := allowed', keys := s.keys.map (Option.filter (isFresh c.mark)) }.fetchHere ∧
      Stands c.rest kinds indents flow allowed' { s with
        cursor := c, keyAllowed := allowed', keys := s.keys.map (Option.filter (isFresh c.mark)) } := by
  refine ⟨(stands.fetch_moved moved).trans (congrArg fetchHere (unroll_shallow ?_)), stands.moved c allowed'⟩
  rw [← stands.flow, ← stands.indents] at shallow
  exact shallow

theorem Stands.fetch_blanks (stands : Stands (List.replicate n ' ' ++ cs) kinds indents flow allowed s)
    (begins : Begins cs) (solid : atBreak cs = false) (level : flow ≠ 0 ∨ indents = []) :
    ∃ t, s.fetch = t.fetchHere ∧ Stands cs kinds indents flow allowed t ∧
      t.mark = (s.cursor.skip n).mark := by
  have moved : skipToToken (s.cursor.rest.length + 1) s =
      { s with cursor := s.cursor.skip n, keyAllowed := allowed } := by
    rw [skipToToken_blanks stands.rest begins solid, ← stands.allowed]
  have shallow : flow ≠ 0 ∨ ∀ indent ∈ indents.head?, indent ≤ (s.cursor.skip n).mark.column :=
    level.imp_right fun outermost => by rw [outermost]; exact forall_mem_none
  obtain ⟨fetched, next⟩ := stands.fetch_shallow moved shallow
  rw [rest_skip_blanks stands.rest] at next
  exact ⟨_, fetched, next, rfl⟩

end Questionnaire.Yaml.TokenStream
