import Questionnaire.Proofs.Yaml.States

/-!
From one token to the next.

Each lemma leads from a text that begins with some tokens to the text behind them: indicators and words in
flow collections, keys with their colon, items of blocks, and the end.
-/

namespace Questionnaire.Yaml.TokenStream

variable {x c : Char} {w cs rest : List Char}
variable {s t : TokenStream} {n flow : Nat} {kinds : List TokenKind} {indents : List Nat} {allowed : Bool}
  {kind : TokenKind}
variable {cs' : List Char} {kinds' : List TokenKind} {indents' : List Nat} {flow' : Nat} {allowed' : Bool}

/-! ### Inside flow collections -/

theorem Stands.reads_indicator
    (stands : Stands (List.replicate n ' ' ++ c :: cs) kinds indents (flow + 1) allowed s)
    (plain : (isBlank c || isBreak c) = false ∧ c ≠ '#' ∧ c ≠ '\ufeff')
    (here : ∀ t, Stands (c :: cs) kinds indents (flow + 1) allowed t →
      ∃ u, t.fetchHere = .ok u ∧ Stands cs kinds' indents' flow' allowed' u) :
    s.Leads (Stands cs kinds' indents' flow' allowed') := by
  obtain ⟨solid, begins⟩ := plain
  rw [Bool.or_eq_false_iff] at solid
  obtain ⟨t, fetched, next, -⟩ :=
    stands.fetch_blanks (forall_mem_some.mpr ⟨solid.1, begins⟩) solid.2 (.inl (Nat.succ_ne_zero flow))
  obtain ⟨u, read, next⟩ := here t next
  refine stands.leads (fetched.trans read) next ?_
  simp only [List.length_append, List.length_cons]
  omega

theorem Stands.reads_opening_bracket
    (stands : Stands (List.replicate n ' ' ++ '[' :: cs) kinds indents (flow + 1) allowed s) :
    s.Leads (Stands cs (kinds ++ [.flowSequenceStart]) indents (flow + 2) true) := by
  refine stands.reads_indicator (by decide) fun t here => ?_
  rw [fetchHere_bracket here.rest]
  exact here.fetchOpening (here.optional (.inl (Nat.succ_ne_zero flow))) .flowSequenceStart

theorem Stands.reads_closing_bracket
    (stands : Stands (List.replicate n ' ' ++ ']' :: cs) kinds indents (flow + 1) allowed s) :
    s.Leads (Stands cs (kinds ++ [.flowSequenceEnd]) indents flow false) := by
  refine stands.reads_indicator (by decide) fun t here => ?_
  rw [fetchHere_closing_bracket here.rest]
  exact here.fetchClosing .flowSequenceEnd

theorem Stands.reads_closing_brace
    (stands : Stands (List.replicate n ' ' ++ '\x7d' :: cs) kinds indents (flow + 1) allowed s) :
    s.Leads (Stands cs (kinds ++ [.flowMappingEnd]) indents flow false) := by
  refine stands.reads_indicator (by decide) fun t here => ?_
  rw [fetchHere_closing_brace here.rest]
  exact here.fetchClosing .flowMappingEnd

theorem Stands.reads_comma
    (stands : Stands (List.replicate n ' ' ++ ',' :: cs) kinds indents (flow + 1) allowed s) :
    s.Leads (Stands cs (kinds ++ [.flowEntry]) indents (flow + 1) true) := by
  refine stands.reads_indicator (by decide) fun t here => ?_
  rw [fetchHere_comma here.rest]
  exact here.fetchComma

theorem Stands.flow_inside (stands : Stands cs kinds indents (flow + 1) allowed s) : (s.flow != 0) = true := by
  rw [stands.flow]
  rfl

theorem atBreak_word (word : IsWord w) : atBreak (w ++ rest) = false := by
  obtain ⟨filled, word⟩ := word
  rcases w with _ | ⟨x, w⟩
  · exact absurd rfl filled
  · exact isBreak_of_word (word x List.mem_cons_self)

theorem Stands.reads_word
    (stands : Stands (List.replicate n ' ' ++ (w ++ c :: cs)) kinds indents (flow + 1) allowed s) (word : IsWord w)
    (ends : PlainScalar.isFlowIndicator c = true) :
    s.Leads (Stands (c :: cs) (kinds ++ [.scalar (String.ofList w) .plain]) indents (flow + 1) false) := by
  obtain ⟨t, fetched, here, -⟩ :=
    stands.fetch_blanks (begins_word word) (atBreak_word word) (.inl (Nat.succ_ne_zero flow))
  obtain ⟨keys, read, next, -⟩ := here.fetchPlain (here.optional (.inl (Nat.succ_ne_zero flow))) word
    (.indicator here.flow_inside ends)
  refine stands.leads (fetched.trans ((fetchHere_word here.rest word).trans read)) (next.accept _ _ false) ?_
  have filled := List.length_pos_iff.mpr word.1
  simp only [List.length_append, List.length_replicate]
  omega

/-! ### Keys -/

theorem Stands.insertBefore {key : PossibleKey} {later : List TokenKind}
    (stands : Stands cs (kinds ++ later) indents flow allowed s) (number : key.number = kinds.length)
    (token : Token) :
    Stands cs (kinds ++ token.kind :: later) indents flow allowed (s.insertBefore key.number token) := by
  have place : key.number - s.taken = kinds.length := by rw [number, stands.taken, Nat.sub_zero]
  refine ⟨stands.rest, ?_, stands.indents, stands.flow, stands.allowed, stands.taken, stands.unended,
    stands.loose.length, stands.loose.free⟩
  simp only [TokenStream.insertBefore, place, List.map_append, List.map_take, List.map_cons, List.map_drop,
    stands.kinds, List.take_left, List.drop_left]

/-- A colon behind a token that may be a key. -/
theorem Stands.fetchValue {key : PossibleKey} {keys : List (Option PossibleKey)} {later : List TokenKind}
    (stands : Stands (x :: cs) (kinds ++ later) indents flow allowed s) (waiting : s.keys = some key :: keys)
    (number : key.number = kinds.length) :
    (flow ≠ 0 → ∃ t, s.fetchValue = .ok t ∧
      Stands cs (kinds ++ .key :: later ++ [.value]) indents flow false t) ∧
      (flow = 0 → indents = [] → ∃ t, s.fetchValue = .ok t ∧
        Stands cs (kinds ++ .blockMappingStart :: .key :: later ++ [.value]) [key.mark.column] 0 false t) := by
  have length := stands.keys_length
  have free := stands.loose.free
  rw [waiting] at length free
  have length : (none :: keys).length = flow + 1 := length
  have forgot : ∀ key ∈ none :: keys, ∀ k ∈ key, PossibleKey.required k = false :=
    List.forall_mem_cons.mpr ⟨forall_mem_none, (List.forall_mem_cons.mp free).2⟩
  have keyed : Stands (x :: cs) (kinds ++ .key :: later) indents flow allowed
      (s.insertBefore key.number ⟨.key, key.mark, key.mark⟩) :=
    stands.insertBefore number ⟨.key, key.mark, key.mark⟩
  unfold TokenStream.fetchValue
  rw [waiting]
  constructor
  · intro inside
    have flat : (s.insertBefore key.number ⟨.key, key.mark, key.mark⟩).roll key.mark.column (some key.number)
        .blockMappingStart key.mark = s.insertBefore key.number ⟨.key, key.mark, key.mark⟩ := by
      refine if_pos ?_
      rw [keyed.flow]
      simp [inside]
    simp only [flat]
    exact ⟨_, rfl, (keyed.withKeys length forgot).mark? .value false⟩
  · rintro rfl rfl
    have deeper : Stands (x :: cs) (kinds ++ .key :: later) [key.mark.column] 0 allowed
        { s.insertBefore key.number ⟨.key, key.mark, key.mark⟩ with indents := [key.mark.column] } :=
      ⟨keyed.rest, keyed.kinds, rfl, keyed.flow, keyed.allowed, keyed.taken, keyed.unended, keyed.loose.length,
        keyed.loose.free⟩
    have rolled : (s.insertBefore key.number ⟨.key, key.mark, key.mark⟩).roll key.mark.column (some key.number)
        .blockMappingStart key.mark =
        { s.insertBefore key.number ⟨.key, key.mark, key.mark⟩ with indents := [key.mark.column] }.insertBefore
          key.number ⟨.blockMappingStart, key.mark, key.mark⟩ := by
      rw [roll_deeper keyed.flow (by rw [keyed.indents]; exact forall_mem_none), keyed.indents]
    have opened := deeper.insertBefore number ⟨.blockMappingStart, key.mark, key.mark⟩
    simp only [rolled]
    exact ⟨_, rfl, (opened.withKeys length forgot).mark? .value false⟩

theorem Stands.fetch_key (stands : Stands (w ++ ':' :: x :: cs) kinds indents flow true s) (word : IsWord w)
    (level : flow ≠ 0 ∨ indents = []) (spaced : (isBlank x || isBreak x) = true)
    (short : Text.byteLength w ≤ 1024) :
    ∃ t u key keys, s.fetchHere = .ok t ∧
      Stands (':' :: x :: cs) (kinds ++ [.scalar (String.ofList w) .plain]) indents flow false t ∧
      t.fetch = u.fetchValue ∧
      Stands (':' :: x :: cs) (kinds ++ [.scalar (String.ofList w) .plain]) indents flow false u ∧
      u.keys = some key :: keys ∧ key.number = kinds.length ∧ key.mark = s.mark := by
  obtain ⟨keys, read, saved, first⟩ := stands.fetchPlain (stands.optional level) word (.colon spaced)
  have taken : s.cursor.rest.take w.length = w := by rw [stands.rest, List.take_left]
  have there : (s.cursor.skip w.length).mark.index = s.mark.index + Text.byteLength w := by
    simp only [Cursor.skip, taken, mark]
  have next := saved.accept (.scalar (String.ofList w) .plain) s.mark false
  generalize target : ({ s with keys := keys }.allowKey false).accept (⟨.scalar (String.ofList w) .plain, s.mark,
    (s.cursor.skip w.length).mark⟩, s.cursor.skip w.length) = t at read next
  have cursor : t.cursor = s.cursor.skip w.length := by rw [← target]; rfl
  have keyed : t.keys = some ⟨false, s.queue.length, s.mark⟩ :: s.keys.drop 1 := by
    rw [← target]
    exact first rfl
  have moved : skipToToken (t.cursor.rest.length + 1) t =
      { t with cursor := t.cursor.skip 0, keyAllowed := false } := by
    have begins : Begins (':' :: x :: cs) := forall_mem_some.mpr (by decide)
    rw [skipToToken_blanks (n := 0) next.rest begins rfl, ← next.allowed]
  have shallow : flow ≠ 0 ∨ ∀ indent ∈ indents.head?, indent ≤ (t.cursor.skip 0).mark.column :=
    level.imp_right fun outermost => by rw [outermost]; exact forall_mem_none
  obtain ⟨fetched, here⟩ := next.fetch_shallow moved shallow
  have behind : (t.cursor.skip 0).rest = ':' :: x :: cs := next.rest
  rw [behind] at here
  have fresh : isFresh (t.cursor.skip 0).mark ⟨false, s.queue.length, s.mark⟩ = true := by
    refine decide_eq_true ⟨?_, ?_⟩
    · rw [cursor]
      exact Nat.le_refl _
    · show t.cursor.mark.index + 0 ≤ s.mark.index + 1024
      rw [cursor, there]
      omega
  refine ⟨t, _, ⟨false, s.queue.length, s.mark⟩,
    (s.keys.drop 1).map (Option.filter (isFresh (t.cursor.skip 0).mark)),
    (fetchHere_word stands.rest word).trans read, next,
    fetched.trans (fetchHere_colon here.rest spaced), here, ?_, ?_, rfl⟩
  · show t.keys.map (Option.filter (isFresh (t.cursor.skip 0).mark)) = _
    rw [keyed, List.map_cons, Option.filter_some, fresh]
    rfl
  · rw [← stands.kinds, List.length_map]

theorem Stands.reads_key
    (stands : Stands (List.replicate n ' ' ++ (w ++ ':' :: x :: cs)) kinds indents (flow + 1) true s)
    (word : IsWord w) (spaced : (isBlank x || isBreak x) = true) (short : Text.byteLength w ≤ 1024) :
    s.Leads (Stands (x :: cs) (kinds ++ [.key, .scalar (String.ofList w) .plain, .value]) indents (flow + 1)
      false) := by
  have level : flow + 1 ≠ 0 ∨ indents = [] := .inl (Nat.succ_ne_zero flow)
  obtain ⟨v, fetched, here, -⟩ := stands.fetch_blanks (begins_word word) (atBreak_word word) level
  obtain ⟨t, u, key, keys, read, next, again, colon, waiting, number, -⟩ :=
    here.fetch_key word level spaced short
  -- The word is a token of its own at first, and the colon puts the mark of a key in front of it.
  obtain ⟨r, value, last⟩ := (colon.fetchValue waiting number).1 (Nat.succ_ne_zero flow)
  have filled := List.length_pos_iff.mpr word.1
  rw [List.append_assoc] at last
  refine stands.leads_then (fetched.trans read) next ?_ (next.leads (again.trans value) last ?_)
  · simp only [List.length_append, List.length_replicate, List.length_cons]
    omega
  · exact Nat.lt_succ_self _

/-! ### Blocks -/

theorem stands_ofChars (cs : List Char) : Stands cs [.streamStart] [] 0 true (ofChars cs) :=
  ⟨rfl, rfl, rfl, rfl, rfl, rfl, rfl, rfl, List.forall_mem_singleton.mpr forall_mem_none⟩

theorem Stands.reads_first_key (stands : Stands (w ++ ':' :: x :: cs) kinds [] 0 true s) (word : IsWord w)
    (spaced : (isBlank x || isBreak x) = true) (short : Text.byteLength w ≤ 1024) :
    s.Leads (Stands (x :: cs) (kinds ++ [.blockMappingStart, .key, .scalar (String.ofList w) .plain, .value])
      [s.mark.column] 0 false) := by
  have unmoved : Stands (List.replicate 0 ' ' ++ (w ++ ':' :: x :: cs)) kinds [] 0 true s := stands
  obtain ⟨v, fetched, here, same⟩ := unmoved.fetch_blanks (begins_word word) (atBreak_word word) (.inr rfl)
  obtain ⟨t, u, key, keys, read, next, again, colon, waiting, number, place⟩ :=
    here.fetch_key word (.inr rfl) spaced short
  obtain ⟨r, value, last⟩ := (colon.fetchValue waiting number).2 rfl rfl
  have column : key.mark.column = s.mark.column := by
    rw [place, same]
    rfl
  rw [List.append_assoc, column] at last
  refine stands.leads_then (fetched.trans read) next ?_ (next.leads (again.trans value) last (Nat.lt_succ_self _))
  have filled := List.length_pos_iff.mpr word.1
  simp only [List.length_append, List.length_cons]
  omega

theorem roll_cursor {column : Nat} {number : Option Nat} {mark : Mark} :
    (s.roll column number kind mark).cursor = s.cursor := by
  unfold roll
  split
  · rfl
  · cases number <;> rfl

theorem Stands.roll_first (stands : Stands cs kinds indents 0 allowed s) {column : Nat} {mark : Mark}
    (deeper : ∀ indent ∈ indents.head?, indent < column) :
    Stands cs (kinds ++ [kind]) (column :: indents) 0 allowed (s.roll column none kind mark) := by
  rw [roll_deeper stands.flow (by rw [stands.indents]; exact deeper)]
  refine ⟨stands.rest, ?_, congrArg (column :: ·) stands.indents, stands.flow, stands.allowed, stands.taken,
    stands.unended, stands.loose.length, stands.loose.free⟩
  show (s.queue ++ [Token.mk kind mark mark]).map Token.kind = _
  rw [List.map_append, ← stands.kinds]
  rfl

theorem Stands.roll_next {column : Nat} {mark : Mark} (stands : Stands cs kinds (column :: indents) 0 allowed s) :
    Stands cs kinds (column :: indents) 0 allowed (s.roll column none kind mark) := by
  have open_already : (s.flow != 0 || s.indents.head?.any (column ≤ ·)) = true := by
    rw [stands.indents, Bool.or_eq_true]
    exact .inr (decide_eq_true (Nat.le_refl column))
  have same : s.roll column none kind mark = s := if_pos open_already
  rwa [same]

theorem Stands.fetchDash (stands : Stands ('-' :: cs) kinds indents 0 true s)
    (rolled : Stands ('-' :: cs) kinds' indents' 0 true (s.roll s.mark.column none .blockSequenceStart s.mark)) :
    ∃ t, s.fetchDash = .ok t ∧ Stands cs (kinds' ++ [.blockEntry]) indents' 0 true t ∧
      t.mark.column = s.mark.column + 1 := by
  have entry : (s.flow == 0 && !s.keyAllowed) = false := by
    rw [stands.allowed]
    exact Bool.and_false _
  obtain ⟨forgot, next⟩ := rolled.forget
  refine ⟨_, ?_, next.mark? .blockEntry true, ?_⟩
  · unfold TokenStream.fetchDash
    rw [entry]
    exact bind_ok.mpr ⟨_, forgot, rfl⟩
  · show (s.roll s.mark.column none .blockSequenceStart s.mark).cursor.mark.column + 1 = _
    rw [roll_cursor]
    rfl

theorem Stands.skip_line (stands : Stands ('\n' :: (List.replicate n ' ' ++ cs)) kinds indents 0 allowed s)
    (begins : Begins cs) (solid : atBreak cs = false) :
    skipToToken (s.cursor.rest.length + 1) s =
        { s with cursor := s.cursor.skipLine.skip n, keyAllowed := true } ∧
      (s.cursor.skipLine.skip n).rest = cs ∧ (s.cursor.skipLine.skip n).mark.column = n := by
  have line : s.cursor.skipLine =
      ⟨List.replicate n ' ' ++ cs, ⟨s.cursor.mark.index + 1, s.cursor.mark.line + 1, 0⟩⟩ := by
    unfold Cursor.skipLine
    rw [stands.rest]
    rfl
  have long : s.cursor.rest.length + 1 = (s.cursor.rest.length - 1) + 2 := by
    rw [stands.rest]
    rfl
  refine ⟨?_, rest_skip_blanks (congrArg Cursor.rest line), ?_⟩
  · rw [long, skipToToken_line stands.rest begins solid, stands.flow]
    simp only [beq_self_eq_true, Bool.or_true]
  · rw [line]
    exact Nat.zero_add n

theorem Stands.reads_dash
    (stands : Stands ('\n' :: (List.replicate n ' ' ++ '-' :: ' ' :: cs)) kinds indents 0 allowed s)
    (level : ∀ indent ∈ indents.head?, indent ≤ n)
    (rolls : ∀ t : TokenStream, Stands ('-' :: ' ' :: cs) kinds indents 0 true t → t.mark.column = n →
      Stands ('-' :: ' ' :: cs) kinds' (n :: indents') 0 true
        (t.roll t.mark.column none .blockSequenceStart t.mark)) :
    s.Leads fun t => Stands (' ' :: cs) (kinds' ++ [.blockEntry]) (n :: indents') 0 true t ∧
      t.mark.column = n + 1 := by
  obtain ⟨moved, behind, column⟩ := stands.skip_line (forall_mem_some.mpr (by decide)) rfl
  obtain ⟨fetched, here⟩ := stands.fetch_shallow moved (.inr (by rw [column]; exact level))
  rw [behind] at here
  obtain ⟨t, read, next, after⟩ := here.fetchDash (rolls _ here column)
  refine stands.leads_then (fetched.trans ((fetchHere_dash here.rest).trans read)) next ?_
    ⟨t, .refl t, next, after.trans (congrArg (· + 1) column)⟩
  simp only [List.length_cons, List.length_append]
  omega

theorem Stands.reads_opening_brace (stands : Stands (' ' :: '\x7b' :: cs) kinds (n :: indents) 0 true s)
    (column : s.mark.column = n + 1) :
    s.Leads (Stands cs (kinds ++ [.flowMappingStart]) (n :: indents) 1 true) := by
  have after : (s.cursor.skip 1).mark.column = n + 2 := congrArg (· + 1) column
  have brace : (s.cursor.skip 1).rest = '\x7b' :: cs := by
    show s.cursor.rest.drop 1 = _
    rw [stands.rest]
    rfl
  have inside : ∀ indent ∈ (n :: indents).head?, indent ≤ (s.cursor.skip 1).mark.column :=
    forall_mem_some.mpr (by omega)
  have moved : skipToToken (s.cursor.rest.length + 1) s =
      { s with cursor := s.cursor.skip 1, keyAllowed := true } := by
    rw [skipToToken_blanks (n := 1) stands.rest (forall_mem_some.mpr (by decide)) rfl, ← stands.allowed]
  obtain ⟨fetched, here⟩ := stands.fetch_shallow moved (.inr inside)
  rw [brace] at here
  have optional : Optional { s with
      cursor := s.cursor.skip 1, keyAllowed := true,
      keys := s.keys.map (Option.filter (isFresh (s.cursor.skip 1).mark)) } := by
    refine .inr fun same => ?_
    rw [here.indents] at same
    have same : n = (s.cursor.skip 1).mark.column := Option.some.inj same
    omega
  obtain ⟨u, opened, last⟩ := here.fetchOpening optional .flowMappingStart
  refine stands.leads (fetched.trans ((fetchHere_brace here.rest).trans opened)) last ?_
  simp only [List.length_cons]
  omega

/-- An item of a block sequence that begins with a flow mapping. -/
theorem Stands.reads_item
    (stands : Stands ('\n' :: (List.replicate n ' ' ++ '-' :: ' ' :: '\x7b' :: cs)) kinds indents 0 allowed s)
    (level : ∀ indent ∈ indents.head?, indent ≤ n)
    (rolls : ∀ t : TokenStream, Stands ('-' :: ' ' :: '\x7b' :: cs) kinds indents 0 true t →
      t.mark.column = n →
      Stands ('-' :: ' ' :: '\x7b' :: cs) kinds' (n :: indents') 0 true
        (t.roll t.mark.column none .blockSequenceStart t.mark)) :
    s.Leads (Stands cs (kinds' ++ [.blockEntry, .flowMappingStart]) (n :: indents') 1 true) := by
  refine (stands.reads_dash level rolls).trans fun t next => ?_
  have last := next.1.reads_opening_brace next.2
  rwa [List.append_assoc] at last

/-! ### The end -/

theorem Stands.unroll (stands : Stands cs kinds indents 0 allowed s) (column : Option Nat) :
    ∃ k, k ≤ indents.length ∧ (column = none → k = indents.length) ∧
      Stands cs (kinds ++ List.replicate k .blockEnd) (indents.drop k) 0 allowed (s.unroll column) := by
  have block : (s.flow != 0) = false := by
    rw [stands.flow]
    rfl
  unfold TokenStream.unroll
  rw [block]
  refine ⟨(indents.takeWhile fun indent => column.all (· < indent)).length,
    (List.takeWhile_prefix _).length_le, ?_, ?_⟩
  · rintro rfl
    exact congrArg List.length (List.takeWhile_eq_self_iff.mpr fun _ _ => rfl)
  · refine ⟨stands.rest, ?_, ?_, stands.flow, stands.allowed, stands.taken, stands.unended,
      stands.loose.length, stands.loose.free⟩
    · simp only [Bool.false_eq_true, ↓reduceIte, List.map_append, stands.kinds, stands.indents, List.map_map]
      congr 1
      exact List.map_const'
    · simp only [Bool.false_eq_true, ↓reduceIte, stands.indents]

theorem complete_of_kinds (ended : s.ended = true) (keys : ∀ key ∈ s.keys, key = none)
    (queue : s.queue.map (·.kind) = kinds ++ [.streamEnd]) (open_before : .streamEnd ∉ kinds) : s.Complete where
  ended := ended
  keys := keys
  filled := by
    rintro empty
    rw [empty] at queue
    simp at queue
  last := by
    intro before token after whole
    rw [whole, List.map_append, List.map_cons] at queue
    rcases List.eq_nil_or_concat after with rfl | ⟨more, last, rfl⟩
    · obtain ⟨-, same⟩ := List.append_inj' queue rfl
      exact ⟨fun _ => rfl, fun _ => List.head_eq_of_cons_eq same⟩
    · rw [List.concat_eq_append, List.map_append, ← List.cons_append, ← List.append_assoc] at queue
      obtain ⟨rfl, -⟩ := List.append_inj' queue rfl
      have other : token.kind ≠ .streamEnd := by
        rintro same
        exact open_before (by simp [same])
      exact ⟨fun same => absurd same other, fun empty => by simp at empty⟩

/-- At the end of the text the blocks are closed and no key is left. -/
theorem Stands.fetchEnd (stands : Stands [] kinds indents 0 allowed s) :
    ∃ u, s.fetchEnd = .ok u ∧ u.ended = true ∧ u.cursor.rest = [] ∧ (∀ key ∈ u.keys, key = none) ∧
      u.queue.map (·.kind) = kinds ++ List.replicate indents.length .blockEnd ++ [.streamEnd] := by
  obtain ⟨m, told⟩ :
      ∃ m : Mark, (if s.mark.column = 0 then s.mark else ⟨s.mark.index, s.mark.line + 1, 0⟩) = m :=
    ⟨_, rfl⟩
  have last : Stands [] kinds indents 0 allowed { s with cursor := ⟨[], m⟩ } :=
    ⟨rfl, stands.kinds, stands.indents, stands.flow, stands.allowed, stands.taken, stands.unended,
      stands.loose.length, stands.loose.free⟩
  obtain ⟨_, -, all, closed⟩ := last.unroll none
  obtain rfl := all rfl
  obtain ⟨v, unrolled⟩ : ∃ v, TokenStream.unroll { s with cursor := ⟨[], m⟩ } none = v := ⟨_, rfl⟩
  rw [unrolled] at closed
  obtain ⟨forgot, done⟩ := closed.forget
  refine ⟨{ ({ v with keys := none :: v.keys.drop 1 }.allowKey false).enqueue ⟨.streamEnd, m, m⟩ with
    ended := true }, ?_, rfl, done.rest, ?_, ?_⟩
  · unfold TokenStream.fetchEnd
    simp only [told, unrolled]
    exact bind_ok.mpr ⟨_, forgot, rfl⟩
  · have one : (none :: v.keys.drop 1).length = 1 := done.keys_length
    have others : v.keys.drop 1 = [] := List.eq_nil_of_length_eq_zero (Nat.succ.inj one)
    rw [show TokenStream.keys _ = none :: v.keys.drop 1 from rfl, others]
    exact List.forall_mem_singleton.mpr rfl
  · show (v.queue ++ [Token.mk .streamEnd m m]).map (·.kind) = _
    rw [List.map_append, done.kinds]
    rfl

theorem Stands.reads_end (stands : Stands ['\n'] kinds indents 0 allowed s) (open_before : .streamEnd ∉ kinds) :
    ∃ u, Reads s u ∧ u.Complete ∧
      u.queue.map (·.kind) = kinds ++ List.replicate indents.length .blockEnd ++ [.streamEnd] := by
  obtain ⟨moved, behind, -⟩ := Stands.skip_line (n := 0) stands forall_mem_none rfl
  have fetched := stands.fetch_moved moved
  have here := stands.moved (s.cursor.skipLine.skip 0) true
  rw [behind] at here
  obtain ⟨k, shorter, -, here⟩ := here.unroll (some (s.cursor.skipLine.skip 0).mark.column)
  generalize TokenStream.unroll _ (some (s.cursor.skipLine.skip 0).mark.column) = t at fetched here
  have read : t.fetchHere = t.fetchEnd := by
    unfold fetchHere
    rw [here.rest]
  obtain ⟨u, ended, done, nothing, keyless, queue⟩ := here.fetchEnd
  have whole : k + (indents.drop k).length = indents.length := by
    rw [List.length_drop]
    omega
  rw [List.append_assoc kinds, List.replicate_append_replicate, whole] at queue
  refine ⟨u, .head stands.unended (fetched.trans (read.trans ended)) ?_ (.refl _),
    complete_of_kinds done keyless queue ?_, queue⟩
  · simp [left, nothing, done, stands.rest, stands.unended]
  · rw [List.mem_append, not_or]
    exact ⟨open_before, fun member => by cases List.eq_of_mem_replicate member⟩

end Questionnaire.Yaml.TokenStream
