import Questionnaire.Yaml.Document

/-!
The nodes that tokens make.

There is one rule for each construct: which node the reader makes of it, and where it goes on, when it knows
what is read for the parts. Nodes are linked as they are when nothing in them refers to another.
-/

namespace Questionnaire.Yaml

namespace Reader

variable {r s : Reader} {t : Token} {kind : TokenKind} {kinds : List TokenKind} {fuel : Nat}
  {block indentless first : Bool} {content : String} {start : Mark} {stops : List TokenKind}
  {place : Option Mark} {key value item : Node} {items : List Node} {entries : List (Node × Node)}
  {next : Except Error Reader}

/-- The kinds of the tokens that are left. -/
def Faces (kinds : List TokenKind) (r : Reader) : Prop := r.tokens.map (·.kind) = kinds

theorem Faces.peek (faces : Faces (kind :: kinds) r) : ∃ t, r.peek = .ok t ∧ t.kind = kind := by
  obtain ⟨t, ts, tokens, same, -⟩ := List.map_eq_cons_iff.mp faces
  refine ⟨t, ?_, same⟩
  unfold Reader.peek
  rw [tokens]

theorem Faces.advance (faces : Faces (kind :: kinds) r) : Faces kinds r.advance := by
  obtain ⟨t, ts, tokens, -, rest⟩ := List.map_eq_cons_iff.mp faces
  unfold Faces Reader.advance
  rw [tokens]
  exact rest

/-! ### Rules -/

theorem Faces.readNode_scalar (faces : Faces (.scalar content .plain :: kinds) r) (block indentless : Bool)
    (fuel : Nat) :
    ∃ m, readNode block indentless (fuel + 1) r = (.scalar content .plain none m, .ok r.advance) := by
  obtain ⟨t, peek, kind⟩ := faces.peek
  refine ⟨t.start, ?_⟩
  simp [readNode, peek, kind, readProperties, resolveTag, register, mark, Bind.bind, Except.bind, pure,
    Except.pure]

theorem Faces.readNode_flowSequence (faces : Faces (.flowSequenceStart :: kinds) r)
    (read : ∀ start, readFlowItems start true fuel r.advance = (items, next)) :
    ∃ m, readNode block indentless (fuel + 1) r = (.sequence items none m, next) := by
  obtain ⟨t, peek, kind⟩ := faces.peek
  refine ⟨t.start, ?_⟩
  simp [readNode, peek, kind, readProperties, resolveTag, register, mark, Bind.bind, Except.bind, pure,
    Except.pure, read]

theorem Faces.readNode_flowMapping (faces : Faces (.flowMappingStart :: kinds) r)
    (read : ∀ start, readFlowEntries start true fuel r.advance = (entries, next)) :
    ∃ m, readNode block indentless (fuel + 1) r = (.mapping entries none m, next) := by
  obtain ⟨t, peek, kind⟩ := faces.peek
  refine ⟨t.start, ?_⟩
  simp [readNode, peek, kind, readProperties, resolveTag, register, mark, Bind.bind, Except.bind, pure,
    Except.pure, read]

theorem Faces.readNode_blockSequence (faces : Faces (.blockSequenceStart :: kinds) r)
    (read : ∀ start, readBlockItems start fuel r.advance = (items, next)) :
    ∃ m, readNode true indentless (fuel + 1) r = (.sequence items none m, next) := by
  obtain ⟨t, peek, kind⟩ := faces.peek
  refine ⟨t.start, ?_⟩
  simp [readNode, peek, kind, readProperties, resolveTag, register, mark, Bind.bind, Except.bind, pure,
    Except.pure, read]

theorem Faces.readNode_blockMapping (faces : Faces (.blockMappingStart :: kinds) r)
    (read : ∀ start, readBlockEntries start fuel r.advance = (entries, next)) :
    ∃ m, readNode true indentless (fuel + 1) r = (.mapping entries none m, next) := by
  obtain ⟨t, peek, kind⟩ := faces.peek
  refine ⟨t.start, ?_⟩
  simp [readNode, peek, kind, readProperties, resolveTag, register, mark, Bind.bind, Except.bind, pure,
    Except.pure, read]

theorem Faces.readUnless (faces : Faces (kind :: kinds) r) (inside : kind ∉ stops) :
    readUnless block stops place (fuel + 1) r = readNode block block fuel r := by
  obtain ⟨t, peek, rfl⟩ := faces.peek
  simp [Reader.readUnless, peek, inside]

theorem Faces.readUnless_scalar (faces : Faces (.scalar content .plain :: kinds) r) (block : Bool) (fuel : Nat)
    (inside : .scalar content .plain ∉ stops) :
    ∃ m, ∀ place, Reader.readUnless block stops place (fuel + 2) r =
      (.scalar content .plain none m, .ok r.advance) := by
  obtain ⟨m, read⟩ := faces.readNode_scalar block block fuel
  exact ⟨m, fun _ => (faces.readUnless inside).trans read⟩

/-! #### Sequences -/

theorem Faces.readBlockItems_end (faces : Faces (.blockEnd :: kinds) r) :
    readBlockItems start (fuel + 1) r = ([], .ok r.advance) := by
  obtain ⟨t, peek, kind⟩ := faces.peek
  simp [readBlockItems, peek, kind]

theorem Faces.readBlockItems_entry (faces : Faces (.blockEntry :: kind :: kinds) r)
    (filled : kind ≠ .blockEntry ∧ kind ≠ .blockEnd)
    (read : readNode true false fuel r.advance = (item, .ok s))
    (later : readBlockItems start fuel s = (items, next)) :
    readBlockItems start (fuel + 1) r = (item :: items, next) := by
  obtain ⟨t, peek, kind⟩ := faces.peek
  obtain ⟨u, peek', rfl⟩ := faces.advance.peek
  simp [readBlockItems, peek, kind, peek', filled, read, later]

theorem Faces.readFlowItems_end (faces : Faces (.flowSequenceEnd :: kinds) r) :
    readFlowItems start first (fuel + 1) r = ([], .ok r.advance) := by
  obtain ⟨t, peek, kind⟩ := faces.peek
  simp [readFlowItems, peek, kind, Bind.bind, Except.bind, pure, Except.pure]

theorem Faces.readFlowItems_first (faces : Faces (kind :: kinds) r)
    (plain : kind ≠ .flowSequenceEnd ∧ kind ≠ .key) (read : readNode false false fuel r = (item, .ok s))
    (later : readFlowItems start false fuel s = (items, next)) :
    readFlowItems start true (fuel + 1) r = (item :: items, next) := by
  obtain ⟨t, peek, rfl⟩ := faces.peek
  simp [readFlowItems, peek, plain, read, later, Bind.bind, Except.bind, pure, Except.pure]

/-! #### Mappings -/

theorem Faces.readBlockEntries_end (faces : Faces (.blockEnd :: kinds) r) :
    readBlockEntries start (fuel + 1) r = ([], .ok r.advance) := by
  obtain ⟨t, peek, kind⟩ := faces.peek
  simp [readBlockEntries, peek, kind]

theorem Faces.readBlockEntries_key (faces : Faces (.key :: kinds) r)
    (key_read : ∀ place, Reader.readUnless true [.key, .value, .blockEnd] place fuel r.advance = (key, .ok s))
    {others : List TokenKind} (colon : Faces (.value :: others) s) {u : Reader}
    (value_read : ∀ place,
      Reader.readUnless true [.key, .value, .blockEnd] place fuel s.advance = (value, .ok u))
    (later : readBlockEntries start fuel u = (entries, next)) :
    readBlockEntries start (fuel + 1) r = ((key, value) :: entries, next) := by
  obtain ⟨t, peek, kind⟩ := faces.peek
  obtain ⟨v, peek', kind'⟩ := colon.peek
  simp [readBlockEntries, peek, kind, key_read, peek', kind', value_read, later]

theorem Faces.readFlowValue (faces : Faces (.value :: kinds) r) (stops : List TokenKind) (fuel : Nat) :
    readFlowValue stops (fuel + 1) r = Reader.readUnless false stops none fuel r.advance := by
  obtain ⟨t, peek, kind⟩ := faces.peek
  simp [Reader.readFlowValue, peek, kind]

theorem Faces.readFlowValue_scalar (faces : Faces (.value :: .scalar content .plain :: kinds) r) (fuel : Nat)
    (inside : .scalar content .plain ∉ stops) :
    ∃ m, Reader.readFlowValue stops (fuel + 3) r = (.scalar content .plain none m, .ok r.advance.advance) := by
  obtain ⟨m, read⟩ := faces.advance.readUnless_scalar false fuel inside
  exact ⟨m, (faces.readFlowValue stops (fuel + 2)).trans (read none)⟩

theorem Faces.readFlowEntries_end (faces : Faces (.flowMappingEnd :: kinds) r) :
    readFlowEntries start first (fuel + 1) r = ([], .ok r.advance) := by
  obtain ⟨t, peek, kind⟩ := faces.peek
  simp [readFlowEntries, peek, kind, Bind.bind, Except.bind, pure, Except.pure]

theorem Faces.readFlowEntries_first (faces : Faces (.key :: kinds) r) {u : Reader}
    (key_read : Reader.readUnless false [.value, .flowEntry, .flowMappingEnd] none fuel r.advance = (key, .ok s))
    (value_read : Reader.readFlowValue [.flowEntry, .flowMappingEnd] fuel s = (value, .ok u))
    (later : readFlowEntries start false fuel u = (entries, next)) :
    readFlowEntries start true (fuel + 1) r = ((key, value) :: entries, next) := by
  obtain ⟨t, peek, kind⟩ := faces.peek
  simp [readFlowEntries, peek, kind, key_read, value_read, later, Bind.bind, Except.bind, pure, Except.pure]

theorem Faces.readFlowEntries_next (faces : Faces (.flowEntry :: .key :: kinds) r) {u : Reader}
    (key_read : Reader.readUnless false [.value, .flowEntry, .flowMappingEnd] none fuel r.advance.advance =
      (key, .ok s))
    (value_read : Reader.readFlowValue [.flowEntry, .flowMappingEnd] fuel s = (value, .ok u))
    (later : readFlowEntries start false fuel u = (entries, next)) :
    readFlowEntries start false (fuel + 1) r = ((key, value) :: entries, next) := by
  obtain ⟨t, peek, kind⟩ := faces.peek
  obtain ⟨v, peek', kind'⟩ := faces.advance.peek
  simp [readFlowEntries, peek, kind, peek', kind', key_read, value_read, later, Bind.bind, Except.bind, pure,
    Except.pure]

theorem Faces.skipEnds (faces : Faces (kind :: kinds) r) (other : kind ≠ .documentEnd) :
    skipEnds (fuel + 1) r = r := by
  obtain ⟨t, ts, tokens, rfl, -⟩ := List.map_eq_cons_iff.mp faces
  unfold Reader.skipEnds
  simp only [tokens, other, ↓reduceIte]

end Reader

/-! ### Linking -/

namespace Node

variable {depth : Nat} {items : List Node} {entries : List (Node × Node)} {content : String} {style : ScalarStyle}
  {tag : Option String} {m : Mark} {root : Node}

/-- Nothing in a node, which is nested no deeper than that, refers to another node. -/
def Unlinked (depth : Nat) (node : Node) : Prop :=
  ∀ follow links, links.stopped = none → linkWith follow depth node links = (node, links)

theorem unlinked_scalar : Unlinked depth (.scalar content style tag m) := by
  intro follow links stopped
  unfold linkWith
  rw [stopped]

theorem unlinked_sequence (each : ∀ item ∈ items, Unlinked depth item) :
    Unlinked (depth + 1) (.sequence items tag m) := by
  intro follow links stopped
  have same : linkItems follow depth items links = (items, links) := by
    induction items with
    | nil => rfl
    | cons item items ih =>
      obtain ⟨here, later⟩ := List.forall_mem_cons.mp each
      unfold linkItems
      simp only [here follow links stopped, ih later]
  unfold linkWith
  simp only [stopped, Nat.succ_ne_zero, ↓reduceIte, Nat.add_sub_cancel, same]

theorem unlinked_mapping (each : ∀ entry ∈ entries, Unlinked depth entry.1 ∧ Unlinked depth entry.2) :
    Unlinked (depth + 1) (.mapping entries tag m) := by
  intro follow links stopped
  have same : linkEntries follow depth entries links = (entries, links) := by
    induction entries with
    | nil => rfl
    | cons entry entries ih =>
      obtain ⟨⟨key, value⟩, later⟩ := List.forall_mem_cons.mp each
      unfold linkEntries
      simp only [key follow links stopped, value follow links stopped, ih later]
  unfold linkWith
  simp only [stopped, Nat.succ_ne_zero, ↓reduceIte, Nat.add_sub_cancel, same]

theorem link_eq (unlinked : root.Unlinked depthLimit) : root.link = root :=
  congrArg Prod.fst (unlinked _ ⟨0, none⟩ rfl)

end Node

end Questionnaire.Yaml
