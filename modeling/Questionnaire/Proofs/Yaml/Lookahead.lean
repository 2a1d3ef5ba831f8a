import Questionnaire.Proofs.Outcome
import Questionnaire.Yaml.TokenStream

/-!
How far the splitting reads ahead does not matter.

A token is taken as soon as it can no longer become a key, so what waits in the queue depends on the keys
that are still possible, and on how far the text has been read. `tokens_of_reads` is rid of that: the tokens
of a text are those that wait in the queue after the whole text was read and before any of them was taken.
-/

namespace Questionnaire.Yaml

namespace TokenStream

variable {s t u r : TokenStream} {out : List Token} {token : Token} {kind : TokenKind} {n : Nat}
  {x y : Except FormError TokenStream}

/-- The state in which the tokens that were taken wait in the queue again. -/
def untake (out : List Token) (s : TokenStream) : TokenStream :=
  { s with queue := out ++ s.queue, taken := 0 }

/-- As many tokens were taken, and none of them may still become a key. -/
structure Waits (out : List Token) (s : TokenStream) : Prop where
  taken : s.taken = out.length
  keys : ∀ key ∈ s.keys, ∀ k ∈ key, out.length ≤ k.number

/-- The first result is the second one, but for the tokens that were taken. -/
def Alike (out : List Token) (x y : Except FormError TokenStream) : Prop :=
  x = y.map (untake out) ∧ Settles (fun _ => True) (Waits out) y

theorem Waits.alike (waits : s.Waits out) : Alike out (.ok (s.untake out)) (.ok s) := ⟨rfl, waits⟩

theorem Waits.error {e : FormError} : Alike out (.error e) (.error e) := ⟨rfl, trivial⟩

theorem Alike.bind {next : TokenStream → Except FormError TokenStream} (alike : Alike out x y)
    (follows : ∀ s, s.Waits out → Alike out (next (s.untake out)) (next s)) :
    Alike out (x >>= next) (y >>= next) := by
  obtain ⟨rfl, waits⟩ := alike
  cases y with
  | error e => exact Waits.error
  | ok s => exact follows s waits

theorem alike_scan {α : Type} {scanned : Except FormError α} {f g : α → Except FormError TokenStream}
    (follows : ∀ a, Alike out (f a) (g a)) : Alike out (scanned >>= f) (scanned >>= g) := by
  cases scanned with
  | error e => exact Waits.error
  | ok a => exact follows a

theorem alike_ite {c : Prop} [Decidable c] {x' y' : Except FormError TokenStream}
    (holds : Alike out x y) (fails : Alike out x' y') :
    Alike out (if c then x else x') (if c then y else y') := by
  by_cases h : c
  · rwa [if_pos h, if_pos h]
  · rwa [if_neg h, if_neg h]

theorem alike_check {c : Prop} [Decidable c] {e : FormError}
    {next : PUnit → Except FormError TokenStream} (follows : Alike out x y) :
    Alike out (if c then Except.error e >>= next else x) (if c then Except.error e >>= next else y) :=
  alike_ite Waits.error follows

/-! ### The queue -/

theorem untake_enqueue : (s.untake out).enqueue token = (s.enqueue token).untake out := by
  simp only [enqueue, untake, List.append_assoc]

theorem Waits.untake_insertBefore (waits : s.Waits out) (later : out.length ≤ n) :
    (s.untake out).insertBefore n token = (s.insertBefore n token).untake out := by
  have place : n = out.length + (n - out.length) := by omega
  have front : (out ++ s.queue).take n = out ++ s.queue.take (n - out.length) := by
    conv => lhs; rw [place, List.take_length_add_append]
  have back : (out ++ s.queue).drop n = s.queue.drop (n - out.length) := by
    conv => lhs; rw [place, List.drop_length_add_append]
  simp only [insertBefore, untake, waits.taken, Nat.sub_zero, front, back, List.append_assoc]

theorem untake_mark? : (s.untake out).mark? kind n = (s.mark? kind n).untake out :=
  untake_enqueue (s := { s with cursor := s.cursor.skip n })

theorem untake_accept {r : Token × Cursor} : (s.untake out).accept r = (s.accept r).untake out :=
  untake_enqueue (s := { s with cursor := r.2 })

theorem Waits.roll {number : Option Nat} (waits : s.Waits out) (column : Nat) (kind : TokenKind) (mark : Mark)
    (later : ∀ n ∈ number, out.length ≤ n) :
    (s.untake out).roll column number kind mark = (s.roll column number kind mark).untake out ∧
      (s.roll column number kind mark).Waits out := by
  have deeper : { s with indents := column :: s.indents }.Waits out := ⟨waits.taken, waits.keys⟩
  unfold TokenStream.roll
  show (if s.flow != 0 || s.indents.head?.any (column ≤ ·) then s.untake out else _) = _ ∧ _
  split
  · exact ⟨rfl, waits⟩
  · cases number with
    | none => exact ⟨untake_enqueue (s := { s with indents := column :: s.indents }), waits.taken, waits.keys⟩
    | some n => exact ⟨deeper.untake_insertBefore (later n rfl), waits.taken, waits.keys⟩

theorem Waits.unroll (waits : s.Waits out) (column : Option Nat) :
    (s.untake out).unroll column = (s.unroll column).untake out ∧ (s.unroll column).Waits out := by
  unfold TokenStream.unroll
  show (if s.flow != 0 then s.untake out else _) = _ ∧ _
  split
  · exact ⟨rfl, waits⟩
  · simp only [untake, List.append_assoc]
    exact ⟨rfl, waits.taken, waits.keys⟩

/-! ### Keys -/

theorem Waits.forget (waits : s.Waits out) {others : List (Option PossibleKey)}
    (kept : ∀ key ∈ others, key ∈ s.keys) : { s with keys := none :: others }.Waits out where
  taken := waits.taken
  keys := List.forall_mem_cons.mpr ⟨forall_mem_none, fun key member => waits.keys key (kept key member)⟩

theorem alike_forgetKey (waits : s.Waits out) : Alike out (s.untake out).forgetKey s.forgetKey := by
  have same : (s.untake out).keys = s.keys := rfl
  unfold forgetKey
  rw [same]
  rcases waiting : s.keys with _ | ⟨_ | key, keys⟩
  · exact waits.alike
  · exact waits.alike
  · have kept : ∀ key ∈ keys, key ∈ s.keys := fun _ member => waiting ▸ List.mem_cons_of_mem _ member
    exact alike_ite Waits.error (waits.forget kept).alike

theorem alike_saveKey (waits : s.Waits out) : Alike out (s.untake out).saveKey s.saveKey := by
  unfold saveKey
  show Alike out (if s.keyAllowed then _ else _) _
  split
  · obtain ⟨same, kept⟩ := alike_forgetKey waits
    have number : (s.untake out).taken + (s.untake out).queue.length = s.taken + s.queue.length := by
      simp only [untake, List.length_append, waits.taken, Nat.zero_add]
    rw [same, number]
    cases forgot : s.forgetKey with
    | error e => exact Waits.error
    | ok t =>
      have kept : t.Waits out := kept.of_ok forgot
      refine ⟨rfl, kept.taken, List.forall_mem_cons.mpr ⟨forall_mem_some.mpr ?_, fun key member => ?_⟩⟩
      · rw [waits.taken]
        exact Nat.le_add_right _ _
      · exact kept.keys key (List.mem_of_mem_drop member)
  · exact waits.alike

/-! ### Single tokens -/

theorem Waits.mark? {allowed : Bool} (waits : s.Waits out) :
    Alike out (pure (((s.untake out).allowKey allowed).mark? kind n)) (pure ((s.allowKey allowed).mark? kind n)) :=
  ⟨congrArg Except.ok (untake_mark? (s := s.allowKey allowed)), waits.taken, waits.keys⟩

theorem Waits.accept {allowed : Bool} {r : Token × Cursor} (waits : s.Waits out) :
    Alike out (pure (((s.untake out).allowKey allowed).accept r)) (pure ((s.allowKey allowed).accept r)) :=
  ⟨congrArg Except.ok (untake_accept (s := s.allowKey allowed)), waits.taken, waits.keys⟩

theorem alike_forgetting {s' t : TokenStream} {next : TokenStream → Except FormError TokenStream}
    (moved : s' = t.untake out ∧ t.Waits out)
    (follows : ∀ u, u.Waits out → Alike out (next (u.untake out)) (next u)) :
    Alike out (s'.forgetKey >>= next) (t.forgetKey >>= next) := by
  rw [moved.1]
  exact (alike_forgetKey moved.2).bind follows

theorem alike_fetchEnd (waits : s.Waits out) : Alike out (s.untake out).fetchEnd s.fetchEnd := by
  have moved (c : Cursor) : { s with cursor := c }.Waits out := ⟨waits.taken, waits.keys⟩
  refine alike_forgetting ((moved _).unroll _) fun u waits => ⟨?_, waits.taken, waits.keys⟩
  exact congrArg (fun t : TokenStream => Except.ok { t with ended := true })
    (untake_enqueue (s := u.allowKey false))

theorem alike_fetchDirective (waits : s.Waits out) :
    Alike out (s.untake out).fetchDirective s.fetchDirective :=
  alike_forgetting (waits.unroll _) fun _ waits => alike_scan fun _ => waits.accept

theorem alike_fetchMarker (waits : s.Waits out) :
    Alike out ((s.untake out).fetchMarker kind) (s.fetchMarker kind) :=
  alike_forgetting (waits.unroll _) fun _ waits => waits.mark?

theorem alike_fetchOpening (waits : s.Waits out) :
    Alike out ((s.untake out).fetchOpening kind) (s.fetchOpening kind) := by
  refine (alike_saveKey waits).bind fun u waits => ?_
  have opened : { u with keys := none :: u.keys, flow := u.flow + 1 }.Waits out :=
    ⟨waits.taken, (waits.forget fun _ => id).keys⟩
  exact opened.mark?

theorem alike_fetchClosing (waits : s.Waits out) :
    Alike out ((s.untake out).fetchClosing kind) (s.fetchClosing kind) := by
  refine (alike_forgetKey waits).bind fun u waits => ?_
  have closed : { u with keys := u.keys.drop 1, flow := u.flow - 1 }.Waits out :=
    ⟨waits.taken, fun key member => waits.keys key (List.mem_of_mem_drop member)⟩
  by_cases outside : u.flow = 0
  · have same : (u.untake out).flow = 0 := outside
    simp only [outside, same, ↓reduceIte]
    exact waits.mark?
  · have same : ¬(u.untake out).flow = 0 := outside
    simp only [outside, same, ↓reduceIte]
    exact closed.mark?

theorem alike_fetchComma (waits : s.Waits out) : Alike out (s.untake out).fetchComma s.fetchComma :=
  (alike_forgetKey waits).bind fun _ waits => waits.mark?

theorem alike_fetchDash (waits : s.Waits out) : Alike out (s.untake out).fetchDash s.fetchDash :=
  alike_check (alike_forgetting (waits.roll _ _ _ fun _ => nofun) fun _ waits => waits.mark?)

theorem alike_fetchKey (waits : s.Waits out) : Alike out (s.untake out).fetchKey s.fetchKey :=
  alike_check (alike_forgetting (waits.roll _ _ _ fun _ => nofun) fun _ waits => waits.mark?)

theorem alike_fetchValue (waits : s.Waits out) : Alike out (s.untake out).fetchValue s.fetchValue := by
  have keys : (s.untake out).keys = s.keys := rfl
  have here : (s.untake out).mark = s.mark := rfl
  unfold fetchValue
  rw [keys, here]
  rcases waiting : s.keys with _ | ⟨_ | key, keys⟩
  case cons.some =>
    have later : out.length ≤ key.number := waits.keys _ (waiting ▸ List.mem_cons_self) key rfl
    have kept : ∀ key ∈ keys, key ∈ s.keys := fun _ member => waiting ▸ List.mem_cons_of_mem _ member
    have placed : (s.insertBefore key.number ⟨.key, key.mark, key.mark⟩).Waits out :=
      ⟨waits.taken, waits.keys⟩
    obtain ⟨same, rolled⟩ :=
      placed.roll key.mark.column .blockMappingStart key.mark (forall_mem_some.mpr later)
    have forgot : { TokenStream.roll _ key.mark.column (some key.number) .blockMappingStart key.mark with
        keys := none :: keys }.Waits out := ⟨rolled.taken, (waits.forget kept).keys⟩
    simp only [waits.untake_insertBefore later, same]
    exact forgot.mark?
  all_goals
    refine alike_ite Waits.error ?_
    obtain ⟨same, rolled⟩ := waits.roll s.mark.column .blockMappingStart s.mark
      fun (_ : Nat) (absent : _ ∈ none) => nomatch absent
    simp only [same]
    exact rolled.mark?

theorem alike_fetchScanned {scan : Cursor → Except FormError (Token × Cursor)} (waits : s.Waits out) :
    Alike out ((s.untake out).fetchScanned scan) (s.fetchScanned scan) :=
  (alike_saveKey waits).bind fun _ waits => alike_scan fun _ => waits.accept

theorem alike_fetchBlock {literal : Bool} (waits : s.Waits out) :
    Alike out ((s.untake out).fetchBlock literal) (s.fetchBlock literal) :=
  (alike_forgetKey waits).bind fun _ waits => alike_scan fun _ => waits.accept

theorem alike_fetchPlain (waits : s.Waits out) : Alike out (s.untake out).fetchPlain s.fetchPlain :=
  (alike_saveKey waits).bind fun _ waits => alike_scan fun _ => waits.accept

/-! ### Fetching -/

/-- The place behind the blanks and the comment that come next. -/
def pastBlanks (s : TokenStream) : Cursor :=
  let c := if s.mark.index = 0 ∧ s.cursor.rest.head? = some '\ufeff' then s.cursor.skip 1 else s.cursor
  let c := c.skipWhile fun x => x == ' ' || ((s.flow != 0 || !s.keyAllowed) && x == '\t')
  if startsWith '#' c.rest then c.skipToBreak else c

theorem skipToToken_succ {fuel : Nat} : skipToToken (fuel + 1) s =
    if atBreak s.pastBlanks.rest then
      skipToToken fuel
        { s with cursor := s.pastBlanks.skipLine, keyAllowed := s.keyAllowed || s.flow == 0 }
    else { s with cursor := s.pastBlanks } := rfl

/-- Moving to the next token heeds neither the queue nor the keys. -/
theorem skipToToken_with {fuel : Nat} (queue : List Token) (taken : Nat) (keys : List (Option PossibleKey)) :
    skipToToken fuel { s with queue := queue, taken := taken, keys := keys } =
      { skipToToken fuel s with queue := queue, taken := taken, keys := keys } := by
  induction fuel generalizing s with
  | zero => rfl
  | succ fuel ih =>
    have same : { s with queue := queue, taken := taken, keys := keys }.pastBlanks = s.pastBlanks := rfl
    rw [skipToToken_succ, skipToToken_succ, same]
    split
    · exact ih (s := { s with cursor := _, keyAllowed := _ })
    · rfl

theorem skipToToken_same (s : TokenStream) (fuel : Nat) :
    (skipToToken fuel s).queue = s.queue ∧ (skipToToken fuel s).taken = s.taken ∧
      (skipToToken fuel s).keys = s.keys := by
  have same : skipToToken fuel s =
      { skipToToken fuel s with queue := s.queue, taken := s.taken, keys := s.keys } :=
    skipToToken_with s.queue s.taken s.keys
  exact ⟨congrArg (·.queue) same, congrArg (·.taken) same, congrArg (·.keys) same⟩

theorem dropKey_some {k : PossibleKey} : s.dropKey (some k) =
    if k.mark.line < s.mark.line ∨ k.mark.index + 1024 < s.mark.index then
      if k.required then s.missingColon k else .ok none
    else .ok (some k) := by
  simp only [dropKey, Bool.or_eq_true, decide_eq_true_eq]

theorem dropKey_ok {old key : Option PossibleKey} (dropped : s.dropKey old = .ok key) :
    key = none ∨ key = old := by
  cases old with
  | none => exact .inl (Except.ok.inj dropped).symm
  | some k =>
    rw [dropKey_some] at dropped
    split at dropped
    · split at dropped
      · cases dropped
      · exact .inl (Except.ok.inj dropped).symm
    · exact .inr (Except.ok.inj dropped).symm

theorem alike_dropStale (waits : s.Waits out) : Alike out (s.untake out).dropStale s.dropStale := by
  have same : (s.untake out).keys.mapM (s.untake out).dropKey = s.keys.mapM s.dropKey := rfl
  unfold dropStale
  rw [same]
  cases kept : s.keys.mapM s.dropKey with
  | error e => exact Waits.error
  | ok keys =>
    refine ⟨rfl, waits.taken, fun key member k present => ?_⟩
    obtain ⟨old, listed, dropped⟩ := mapM_ok_mem kept member
    rcases dropKey_ok dropped with rfl | rfl
    · cases present
    · exact waits.keys key listed k present

theorem alike_fetchHere (waits : s.Waits out) : Alike out (s.untake out).fetchHere s.fetchHere := by
  have cursor : (s.untake out).cursor = s.cursor := rfl
  have flow : (s.untake out).flow = s.flow := rfl
  have here : (s.untake out).mark = s.mark := rfl
  unfold fetchHere
  rw [cursor, flow, here]
  cases s.cursor.rest with
  | nil => exact alike_fetchEnd waits
  | cons c cs =>
    refine alike_ite (alike_fetchDirective waits) ?_
    refine alike_ite (alike_fetchMarker waits) ?_
    refine alike_ite (alike_fetchOpening waits) ?_
    refine alike_ite (alike_fetchOpening waits) ?_
    refine alike_ite (alike_fetchClosing waits) ?_
    refine alike_ite (alike_fetchClosing waits) ?_
    refine alike_ite (alike_fetchComma waits) ?_
    refine alike_ite (alike_fetchDash waits) ?_
    refine alike_ite (alike_fetchKey waits) ?_
    refine alike_ite (alike_fetchValue waits) ?_
    iterate 3 refine alike_ite (alike_fetchScanned waits) ?_
    iterate 2 refine alike_ite (alike_fetchBlock waits) ?_
    iterate 2 refine alike_ite (alike_fetchScanned waits) ?_
    exact alike_ite (alike_fetchPlain waits) Waits.error

theorem alike_fetch (waits : s.Waits out) : Alike out (s.untake out).fetch s.fetch := by
  obtain ⟨queue, taken, keys⟩ := skipToToken_same s (s.cursor.rest.length + 1)
  have moved : skipToToken (s.cursor.rest.length + 1) (s.untake out) =
      (skipToToken (s.cursor.rest.length + 1) s).untake out := by
    refine (skipToToken_with (out ++ s.queue) 0 s.keys).trans ?_
    simp only [untake, queue, keys]
  have skipped : (skipToToken (s.cursor.rest.length + 1) s).Waits out := by
    refine ⟨taken.trans waits.taken, ?_⟩
    rw [keys]
    exact waits.keys
  unfold fetch
  show Alike out (do let t ← (skipToToken (s.cursor.rest.length + 1) (s.untake out)).dropStale; _) _
  rw [moved]
  refine (alike_dropStale skipped).bind fun t waits => ?_
  obtain ⟨same, waits⟩ := waits.unroll (some t.mark.column)
  have here : (t.untake out).mark = t.mark := rfl
  rw [here, same]
  exact alike_fetchHere waits

/-! ### Stale keys -/

/-- A later line, or a later place of the same text. -/
def Reaches (c d : Cursor) : Prop := c.mark.line ≤ d.mark.line ∧ c.mark.index ≤ d.mark.index

theorem reaches_refl (c : Cursor) : Reaches c c := ⟨Nat.le_refl _, Nat.le_refl _⟩

theorem Reaches.trans {c d e : Cursor} (first : Reaches c d) (second : Reaches d e) : Reaches c e :=
  ⟨Nat.le_trans first.1 second.1, Nat.le_trans first.2 second.2⟩

theorem reaches_skip (c : Cursor) : Reaches c (c.skip n) := ⟨Nat.le_refl _, Nat.le_add_right _ _⟩

theorem reaches_skipLine (c : Cursor) : Reaches c c.skipLine := by
  unfold Cursor.skipLine
  split
  · exact ⟨Nat.le_add_right _ _, Nat.le_add_right _ _⟩
  · split
    · exact ⟨Nat.le_add_right _ _, Nat.le_add_right _ _⟩
    · exact reaches_refl c
  · exact reaches_refl c

theorem reaches_pastBlanks (s : TokenStream) : Reaches s.cursor s.pastBlanks := by
  unfold pastBlanks
  dsimp only
  generalize marked : (if s.mark.index = 0 ∧ s.cursor.rest.head? = some '\ufeff' then s.cursor.skip 1
    else s.cursor) = c
  have unmarked : Reaches s.cursor c := by
    rw [← marked]
    split
    · exact reaches_skip _
    · exact reaches_refl _
  split
  · exact (unmarked.trans (reaches_skip _)).trans (reaches_skip _)
  · exact unmarked.trans (reaches_skip _)

theorem reaches_skipToToken {fuel : Nat} : Reaches s.cursor (skipToToken fuel s).cursor := by
  induction fuel generalizing s with
  | zero => exact reaches_refl _
  | succ fuel ih =>
    rw [skipToToken_succ]
    split
    · exact ((reaches_pastBlanks s).trans (reaches_skipLine _)).trans
        (ih (s := { s with cursor := _, keyAllowed := _ }))
    · exact reaches_pastBlanks s

/-- A key that cannot be one here can be none later. -/
theorem dropKey_later {key : Option PossibleKey} (reaches : Reaches s.cursor t.cursor) :
    (∃ kept, s.dropKey key = .ok kept ∧ t.dropKey kept = t.dropKey key) ∨
      ∃ e, t.dropKey key = .error e := by
  obtain ⟨lines, bytes⟩ := reaches
  cases key with
  | none => exact .inl ⟨none, rfl, rfl⟩
  | some k =>
    by_cases stale : k.mark.line < s.mark.line ∨ k.mark.index + 1024 < s.mark.index
    · have later : k.mark.line < t.mark.line ∨ k.mark.index + 1024 < t.mark.index :=
        stale.imp (Nat.lt_of_lt_of_le · lines) (Nat.lt_of_lt_of_le · bytes)
      rw [dropKey_some, dropKey_some, if_pos stale, if_pos later]
      by_cases required : k.required
      · exact .inr ⟨_, if_pos required⟩
      · exact .inl ⟨none, if_neg required, (if_neg required).symm⟩
    · exact .inl ⟨some k, by rw [dropKey_some, if_neg stale], rfl⟩

theorem mapM_dropKey_later {keys found : List (Option PossibleKey)} (reaches : Reaches s.cursor t.cursor)
    (dropped : keys.mapM t.dropKey = .ok found) :
    ∃ kept, keys.mapM s.dropKey = .ok kept ∧ kept.mapM t.dropKey = .ok found := by
  simp only [mapM_ok] at dropped ⊢
  induction dropped with
  | nil => exact ⟨[], .nil, .nil⟩
  | cons first _ ih =>
    obtain ⟨kept, here, later⟩ := ih
    rcases dropKey_later reaches with ⟨k, dropped, same⟩ | ⟨e, refused⟩
    · exact ⟨k :: kept, .cons dropped here, .cons (same.trans first) later⟩
    · rw [refused] at first
      cases first

/-- What is read next does not change if keys that cannot be one are given up before. -/
theorem exists_dropStale (read : s.fetch = .ok t) : ∃ kept, s.dropStale = .ok kept ∧ kept.fetch = .ok t := by
  obtain ⟨-, -, keys⟩ := skipToToken_same s (s.cursor.rest.length + 1)
  have reaches : Reaches s.cursor (skipToToken (s.cursor.rest.length + 1) s).cursor := reaches_skipToToken
  obtain ⟨_, dropped, follows⟩ := bind_ok.mp read
  obtain ⟨found, drop, rfl⟩ := map_ok.mp dropped
  rw [keys] at drop
  have moved (kept : List (Option PossibleKey)) :
      skipToToken (s.cursor.rest.length + 1) { s with keys := kept } =
        { skipToToken (s.cursor.rest.length + 1) s with keys := kept } := by
    obtain ⟨queue, taken, -⟩ := skipToToken_same s (s.cursor.rest.length + 1)
    refine (skipToToken_with s.queue s.taken kept).trans ?_
    simp only [queue, taken]
  generalize skipToToken (s.cursor.rest.length + 1) s = u at *
  obtain ⟨kept, here, later⟩ := mapM_dropKey_later reaches drop
  refine ⟨{ s with keys := kept }, map_ok.mpr ⟨kept, here, rfl⟩, bind_ok.mpr ⟨_, ?_, follows⟩⟩
  rw [moved]
  exact map_ok.mpr ⟨found, later, rfl⟩

/-! ### Reading all of a text -/

/-- How much there is to read: the characters that are left, and the end of the text. -/
def left (s : TokenStream) : Nat := s.cursor.rest.length + if s.ended then 0 else 1

/-- Reading leads from one state to the other, with no token taken in between. -/
inductive Reads : TokenStream → TokenStream → Prop
  | refl (s : TokenStream) : Reads s s
  | head {s t u : TokenStream} (unended : s.ended = false) (read : s.fetch = .ok t) (less : t.left < s.left)
      (later : Reads t u) : Reads s u

theorem Reads.trans (first : Reads s t) (second : Reads t u) : Reads s u := by
  induction first with
  | refl => exact second
  | head unended read less _ ih => exact .head unended read less (ih second)

/-- What was taken is no longer touched. -/
theorem Reads.kept (reads : Reads (s.untake out) u) (waits : s.Waits out) :
    ∃ v : TokenStream, u = v.untake out ∧ v.Waits out := by
  generalize start : s.untake out = r at reads
  induction reads generalizing s with
  | refl => exact ⟨s, start.symm, waits⟩
  | head unended read less _ ih =>
    subst start
    obtain ⟨same, kept⟩ := alike_fetch waits
    obtain ⟨v, read', rfl⟩ := map_ok.mp (same.symm.trans read)
    exact ih (kept.of_ok read') rfl

/-- The state that reading leads to when the whole text is read: no key is open, and the end of the text is
the last token and no other. -/
structure Complete (u : TokenStream) : Prop where
  ended : u.ended = true
  keys : ∀ key ∈ u.keys, key = none
  filled : u.queue ≠ []
  last : ∀ before token after, u.queue = before ++ token :: after → (token.kind = .streamEnd ↔ after = [])

theorem dropStale_of_keyless (keyless : ∀ key ∈ s.keys, key = none) : s.dropStale = .ok s := by
  refine map_ok.mpr ⟨s.keys, mapM_ok.mpr (List.forall₂_same.mpr fun key member => ?_), rfl⟩
  rw [keyless key member]
  rfl

theorem Waits.pop {queue : List Token} (waits : t.Waits out) (waiting : t.queue = token :: queue)
    (free : ∀ key ∈ t.keys, ∀ k ∈ key, k.number ≠ out.length) :
    { t with queue := queue, taken := t.taken + 1 }.untake (out ++ [token]) = t.untake out ∧
      { t with queue := queue, taken := t.taken + 1 }.Waits (out ++ [token]) := by
  refine ⟨?_, ?_, fun key member k present => ?_⟩
  · simp only [untake, waiting, List.append_assoc, List.singleton_append]
  · simp only [waits.taken, List.length_append, List.length_singleton]
  · have other := free key member k present
    have least := waits.keys key member k present
    simp only [List.length_append, List.length_singleton]
    omega

section

variable (complete : u.Complete)
include complete

theorem Complete.reads_cases (waits : r.Waits out) (reads : Reads (r.untake out) u) :
    u = r.untake out ∧ r.ended = true ∨ r.ended = false ∧
      ∃ t, r.fetch = .ok t ∧ t.left < r.left ∧ t.Waits out ∧ Reads (t.untake out) u := by
  generalize start : r.untake out = s at reads
  cases reads with
  | refl =>
    subst start
    exact .inl ⟨rfl, complete.ended⟩
  | head unended read less later =>
    subst start
    obtain ⟨same, kept⟩ := alike_fetch waits
    obtain ⟨t, fetched, rfl⟩ := map_ok.mp (same.symm.trans read)
    exact .inr ⟨unended, t, fetched, less, kept.of_ok fetched, later⟩

/-- What settles the head of the queue leads no further than to where the text is read. -/
theorem Complete.settle_ok {fuel : Nat} (waits : r.Waits out) (reads : Reads (r.untake out) u)
    (some_left : out.length < u.queue.length) (enough : r.left < fuel) :
    ∃ t token queue, r.settle fuel = .ok t ∧ t.Waits out ∧ Reads (t.untake out) u ∧
      t.queue = token :: queue ∧
      ∀ key ∈ t.keys, ∀ k ∈ key, k.number ≠ out.length := by
  induction fuel generalizing r with
  | zero => exact absurd enough (Nat.not_lt_zero _)
  | succ fuel ih =>
    unfold settle
    cases queue : r.queue with
    | nil =>
      rcases complete.reads_cases waits reads with ⟨rfl, -⟩ | ⟨-, t, read, less, kept, later⟩
      · simp only [untake, queue, List.append_nil, Nat.lt_irrefl] at some_left
      · obtain ⟨v, settled⟩ := ih kept later (by omega)
        exact ⟨v, by simpa only [List.isEmpty_nil, ↓reduceIte, read] using settled⟩
    | cons token others =>
      simp only [List.isEmpty_cons, Bool.false_eq_true, ↓reduceIte]
      rcases complete.reads_cases waits reads with ⟨rfl, ended⟩ | ⟨unended, t, read, less, kept, later⟩
      · have keyless : ∀ key ∈ r.keys, key = none := complete.keys
        refine ⟨r, token, others, ?_, waits, reads, queue, fun key member k present => ?_⟩
        · simp only [dropStale_of_keyless keyless, ended]
          rfl
        · rw [keyless key member] at present
          cases present
      · -- A key that is stale here would be stale when the next token is fetched, so it may go now.
        obtain ⟨s, dropped, read⟩ := exists_dropStale read
        have waits : s.Waits out := (alike_dropStale waits).2.of_ok dropped
        obtain ⟨keys, -, rfl⟩ := map_ok.mp dropped
        simp only [dropped]
        split
        · obtain ⟨v, settled⟩ := ih kept later (by omega)
          exact ⟨v, by simpa only [read] using settled⟩
        · rename_i free
          have again : Reads (TokenStream.untake out { r with keys := keys }) u := by
            have same := (alike_fetch waits).1
            rw [read] at same
            exact .head unended same less later
          refine ⟨_, token, others, rfl, waits, again, queue, fun key member k present number => free ?_⟩
          have taken : k.number = r.taken := number.trans waits.taken.symm
          have found : keys.any (fun key => key.any (·.number == r.taken)) = true :=
            List.any_eq_true.mpr ⟨key, member, by rw [Option.mem_def.mp present]; exact beq_iff_eq.mpr taken⟩
          simp only [unended, found, Bool.not_false, Bool.and_self]

theorem Complete.run_eq {fuel : Nat} (waits : r.Waits out) (reads : Reads (r.untake out) u)
    (some_left : out.length < u.queue.length) (enough : u.queue.length ≤ out.length + fuel) :
    run fuel r = (u.queue.drop out.length, none) := by
  induction fuel generalizing r out with
  | zero => omega
  | succ fuel ih =>
    have fuel_left : r.left < r.cursor.rest.length + 2 := by
      unfold left
      split <;> omega
    obtain ⟨t, token, queue, settled, waits, reads, waiting, free⟩ :=
      complete.settle_ok waits reads some_left fuel_left
    obtain ⟨popped, next⟩ := waits.pop waiting free
    obtain ⟨v, rfl, -⟩ := Reads.kept (popped ▸ reads) next
    have whole : (v.untake (out ++ [token])).queue = out ++ token :: v.queue := by
      simp only [untake, List.append_assoc, List.singleton_append]
    have last := complete.last out token v.queue whole
    rw [whole, List.drop_left]
    unfold run
    simp only [settled, waiting]
    -- The token that is taken is the end of the text just if none waits behind it in the end.
    split
    · rename_i final
      rw [last.mp final]
    · rename_i more
      have more : v.queue ≠ [] := fun none_left => more (last.mpr none_left)
      have length : (v.untake (out ++ [token])).queue.length = out.length + 1 + v.queue.length := by
        rw [whole, List.length_append, List.length_cons]
        omega
      have positive := List.length_pos_iff.mpr more
      have short : (out ++ [token]).length < (v.untake (out ++ [token])).queue.length := by
        rw [length, List.length_append, List.length_singleton]
        omega
      have bounded : (v.untake (out ++ [token])).queue.length ≤ (out ++ [token]).length + fuel := by
        rw [List.length_append, List.length_singleton]
        omega
      rw [ih next (popped ▸ reads) short bounded]
      simp only [untake, List.drop_left]

end

end TokenStream

/-- The tokens of a text are those that wait when all of it was read. -/
theorem tokens_of_reads {cs : List Char} {u : TokenStream} (allowed : cs.all isAllowed = true)
    (reads : TokenStream.Reads (.ofChars cs) u) (complete : u.Complete)
    (short : u.queue.length ≤ 4 * cs.length + 8) : tokens cs = (u.queue, none) := by
  have waits : (TokenStream.ofChars cs).Waits [] := ⟨rfl, fun _ _ _ _ => Nat.zero_le _⟩
  unfold tokens
  rw [if_pos allowed]
  exact complete.run_eq waits reads (List.length_pos_iff.mpr complete.filled) (by simpa using short)

end Questionnaire.Yaml
