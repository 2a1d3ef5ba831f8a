import Mathlib.Data.List.TakeWhile
import Questionnaire.Proofs.Yaml.Lookahead

/-!
Words, and what stands in front of tokens.

A word is taken whole as a plain scalar, wherever it stands: `PlainScalar.scan_word`. Which token begins at
a place is told by one character, `fetchHere_word` and the like.
-/

namespace Questionnaire.Yaml

variable {x c : Char} {w cs rest : List Char} {flow : Bool}

/-! ### Words -/

/-- A character that words are made of. None of them is an indicator. -/
def isWordChar (c : Char) : Bool := c.isUpper || c.isLower || c.isDigit || c == '_'

def IsWord (w : List Char) : Prop := w ≠ [] ∧ ∀ x ∈ w, isWordChar x = true

instance (w : List Char) : Decidable (IsWord w) :=
  decidable_of_iff ((!w.isEmpty && w.all isWordChar) = true) (by simp [IsWord])

theorem ne_of_isWordChar (word : isWordChar x = true) (other : isWordChar c = false) : x ≠ c := by
  rintro rfl
  rw [other] at word
  cases word

theorem isBlank_of_word (word : isWordChar x = true) : isBlank x = false := by
  simp only [isBlank, Bool.or_eq_false_iff, beq_eq_false_iff_ne]
  exact ⟨ne_of_isWordChar word rfl, ne_of_isWordChar word rfl⟩

theorem isBreak_of_word (word : isWordChar x = true) : isBreak x = false := by
  simp only [isBreak, Bool.or_eq_false_iff, beq_eq_false_iff_ne]
  refine ⟨⟨⟨⟨?_, ?_⟩, ?_⟩, ?_⟩, ?_⟩ <;> exact ne_of_isWordChar word rfl

theorem not_mem_of_word (inert : cs.all (fun d => !isWordChar d) = true) (word : isWordChar x = true) :
    x ∉ cs := by
  intro member
  have other := List.all_eq_true.mp inert x member
  rw [word] at other
  cases other

theorem toNat_of_isUpper (upper : x.isUpper = true) : 65 ≤ x.toNat ∧ x.toNat ≤ 90 := by
  have range : x.val ≥ 'A'.val ∧ x.val ≤ 'Z'.val := of_decide_eq_true upper
  exact range

theorem toNat_of_isLower (lower : x.isLower = true) : 97 ≤ x.toNat ∧ x.toNat ≤ 122 := by
  have range : (decide (x.val ≥ 'a'.val) && decide (x.val ≤ 'z'.val)) = true := lower
  rw [Bool.and_eq_true, decide_eq_true_eq, decide_eq_true_eq] at range
  exact range

theorem toNat_of_isDigit (digit : x.isDigit = true) : 48 ≤ x.toNat ∧ x.toNat ≤ 57 := by
  have range : (decide (x.val ≥ '0'.val) && decide (x.val ≤ '9'.val)) = true := digit
  rw [Bool.and_eq_true, decide_eq_true_eq, decide_eq_true_eq] at range
  exact range

theorem isAllowed_of_word (word : isWordChar x = true) : isAllowed x = true := by
  have bounds : 32 ≤ x.toNat ∧ x.toNat ≤ 126 := by
    simp only [isWordChar, Bool.or_eq_true, beq_iff_eq] at word
    rcases word with ((upper | lower) | digit) | rfl
    · have range := toNat_of_isUpper upper
      omega
    · have range := toNat_of_isLower lower
      omega
    · have range := toNat_of_isDigit digit
      omega
    · decide
  simp [isAllowed, bounds]

namespace PlainScalar

theorem not_flowIndicator_of_word (word : isWordChar x = true) : isFlowIndicator x = false := by
  simp only [isFlowIndicator, Bool.or_eq_false_iff, beq_eq_false_iff_ne]
  refine ⟨⟨⟨⟨?_, ?_⟩, ?_⟩, ?_⟩, ?_⟩ <;> exact ne_of_isWordChar word rfl

/-- What ends a word without a gap behind it: in a flow collection an indicator, anywhere a colon that stands
alone. -/
inductive Ends (flow : Bool) : List Char → Prop
  | indicator {x : Char} {rest : List Char} (inside : flow = true) (indicates : isFlowIndicator x = true) :
      Ends flow (x :: rest)
  | colon {x : Char} {rest : List Char} (spaced : (isBlank x || isBreak x) = true) :
      Ends flow (':' :: x :: rest)

theorem solid_of_flowIndicator (indicates : isFlowIndicator x = true) :
    (isBlank x || isBreak x) = false ∧ x ≠ ':' := by
  simp only [isFlowIndicator, Bool.or_eq_true, beq_iff_eq] at indicates
  rcases indicates with (((rfl | rfl) | rfl) | rfl) | rfl <;> decide

theorem word_eq (word : ∀ x ∈ w, isWordChar x = true) (ends : Ends flow rest) :
    PlainScalar.word flow (w ++ rest) = (w, true) := by
  induction w with
  | nil =>
    rw [List.nil_append]
    cases ends with
    | @indicator x rest inside indicates =>
      obtain ⟨solid, other⟩ := solid_of_flowIndicator indicates
      rw [PlainScalar.word]
      simp [solid, other, inside, indicates]
    | @colon x rest spaced =>
      have other : (isFlowIndicator x || x == '?') = false := by
        rw [Bool.or_eq_false_iff, beq_eq_false_iff_ne]
        refine ⟨Bool.eq_false_iff.mpr fun indicates => ?_, fun question => ?_⟩
        · rw [(solid_of_flowIndicator indicates).1] at spaced
          cases spaced
        · rw [question] at spaced
          cases spaced
      have solid : (isBlank ':' || isBreak ':') = false := rfl
      rw [PlainScalar.word]
      simp [atBlankOrEnd, spaced, other, solid]
  | cons y w ih =>
    obtain ⟨here, later⟩ := List.forall_mem_cons.mp word
    have colon : (y == ':') = false := beq_eq_false_iff_ne.mpr (ne_of_isWordChar here rfl)
    rw [List.cons_append, PlainScalar.word, ih later]
    simp [isBlank_of_word here, isBreak_of_word here, not_flowIndicator_of_word here, colon]

theorem Ends.solid (ends : Ends flow rest) : (atBlank rest || atBreak rest) = false := by
  cases ends with
  | indicator inside indicates => exact (solid_of_flowIndicator indicates).1
  | colon => rfl

theorem not_atDocumentMarker {cursor : Cursor} (ahead : cursor.rest = x :: cs) (dash : x ≠ '-')
    (point : x ≠ '.') :
    cursor.atDocumentMarker = false := by
  unfold Cursor.atDocumentMarker
  rw [ahead, Bool.and_eq_false_iff]
  right
  split
  · rename_i same
    exact absurd (List.cons.inj same).1 dash
  · rename_i same
    exact absurd (List.cons.inj same).1 point
  · rfl

theorem scan_word {indent : Nat} {cursor : Cursor} (word : IsWord w) (ahead : cursor.rest = w ++ rest)
    (ends : Ends flow rest) :
    scan flow indent cursor =
      .ok (⟨.scalar (String.ofList w) .plain, cursor.mark, (cursor.skip w.length).mark⟩,
      false, cursor.skip w.length) := by
  obtain ⟨filled, word⟩ := word
  have read := word_eq word ends
  rcases w with _ | ⟨y, w⟩
  · exact absurd rfl filled
  · have here := word y List.mem_cons_self
    have unmarked : cursor.atDocumentMarker = false :=
      not_atDocumentMarker ahead (ne_of_isWordChar here rfl) (ne_of_isWordChar here rfl)
    have other : startsWith '#' cursor.rest = false := by
      rw [ahead]
      exact beq_eq_false_iff_ne.mpr fun same => ne_of_isWordChar here rfl (Option.some.inj same)
    have behind : (cursor.skip (y :: w).length).rest = rest := by
      simp only [Cursor.skip, ahead, List.drop_left]
    rw [← ahead] at read
    simp only [scan, words, unmarked, other, Bool.or_self, Bool.false_eq_true, ↓reduceIte, read, behind,
      ends.solid]
    rfl

end PlainScalar

/-! ### Moving to a token -/

namespace TokenStream

variable {s t : TokenStream} {n flow : Nat} {kinds : List TokenKind} {indents : List Nat} {allowed : Bool}
  {kind : TokenKind}

/-- Keys that may be given up, as many as there are places for them. -/
structure Loose (s : TokenStream) : Prop where
  length : s.keys.length = s.flow + 1
  free : ∀ key ∈ s.keys, ∀ k ∈ key, k.required = false

/-- Whether a token can still become a key at a place. -/
def isFresh (m : Mark) (k : PossibleKey) : Bool :=
  decide (m.line ≤ k.mark.line ∧ m.index ≤ k.mark.index + 1024)

theorem Loose.dropStale (loose : s.Loose) :
    s.dropStale = .ok { s with keys := s.keys.map (Option.filter (isFresh s.mark)) } := by
  have dropped : s.keys.mapM s.dropKey = .ok (s.keys.map (Option.filter (isFresh s.mark))) := by
    refine mapM_ok.mpr (List.forall₂_map_right_iff.mpr (List.forall₂_same.mpr fun key member => ?_))
    cases key with
    | none => rfl
    | some k =>
      have free := loose.free _ member k rfl
      by_cases stale : k.mark.line < s.mark.line ∨ k.mark.index + 1024 < s.mark.index
      · have given_up : isFresh s.mark k = false := decide_eq_false (by omega)
        rw [dropKey_some, if_pos stale, free, Option.filter_some, given_up]
        rfl
      · have kept : isFresh s.mark k = true := decide_eq_true (by omega)
        rw [dropKey_some, if_neg stale, Option.filter_some, kept]
        rfl
  exact map_ok.mpr ⟨_, dropped, rfl⟩

theorem unroll_shallow {column : Nat}
    (shallow : s.flow ≠ 0 ∨ ∀ indent ∈ s.indents.head?, indent ≤ column) :
    s.unroll (some column) = s := by
  unfold unroll
  split
  · rfl
  · rename_i block
    have shallow := shallow.resolve_left (by simpa using block)
    have none_closed : (s.indents.takeWhile fun indent => decide (column < indent)) = [] := by
      rcases indents : s.indents with _ | ⟨first, others⟩
      · rfl
      · have first := shallow first (by rw [indents]; rfl)
        rw [List.takeWhile_cons, decide_eq_false (Nat.not_lt.mpr first)]
        rfl
    simp only [Option.all_some, none_closed, List.length_nil, List.drop_zero, List.map_nil, List.append_nil]

theorem roll_deeper {column : Nat} {number : Option Nat} {mark : Mark} (block : s.flow = 0)
    (deeper : ∀ indent ∈ s.indents.head?, indent < column) :
    s.roll column number kind mark = match number with
      | none => { s with indents := column :: s.indents }.enqueue ⟨kind, mark, mark⟩
      | some n => { s with indents := column :: s.indents }.insertBefore n ⟨kind, mark, mark⟩ := by
  have opens : (s.flow != 0 || s.indents.head?.any (column ≤ ·)) = false := by
    rw [block, Bool.or_eq_false_iff, Option.any_eq_false]
    refine ⟨rfl, fun indent first => ?_⟩
    simpa using deeper indent first
  unfold roll
  rw [opens]
  rfl

theorem Loose.fetch_eq (loose : t.Loose) (moved : skipToToken (s.cursor.rest.length + 1) s = t) :
    s.fetch =
      ({ t with keys := t.keys.map (Option.filter (isFresh t.mark)) }.unroll (some t.mark.column)).fetchHere := by
  have dropped := loose.dropStale
  rw [← moved] at dropped ⊢
  unfold fetch
  dsimp only
  rw [dropped, moved]
  rfl

/-- Whether the text can be read as it stands: it begins with neither blanks nor a comment nor a mark of the
byte order. -/
def Begins (cs : List Char) : Prop := ∀ c ∈ cs.head?, isBlank c = false ∧ c ≠ '#' ∧ c ≠ '\ufeff'

theorem begins_word (word : IsWord w) : Begins (w ++ rest) := by
  obtain ⟨filled, word⟩ := word
  rcases w with _ | ⟨x, w⟩
  · exact absurd rfl filled
  · have here := word x List.mem_cons_self
    exact forall_mem_some.mpr
      ⟨isBlank_of_word here, ne_of_isWordChar here rfl, ne_of_isWordChar here rfl⟩

theorem rest_skip_blanks {c : Cursor} (ahead : c.rest = List.replicate n ' ' ++ rest) :
    (c.skip n).rest = rest := by
  simp only [Cursor.skip, ahead]
  exact List.drop_left' List.length_replicate

theorem pastBlanks_eq (ahead : s.cursor.rest = List.replicate n ' ' ++ rest) (begins : Begins rest) :
    s.pastBlanks = s.cursor.skip n := by
  have unmarked : ¬(s.mark.index = 0 ∧ s.cursor.rest.head? = some '\ufeff') := by
    rintro ⟨-, marked⟩
    rw [ahead] at marked
    cases n with
    | zero => exact (begins _ marked).2.2 rfl
    | succ n => cases marked
  have blanks : (s.cursor.rest.takeWhile fun x => x == ' ' || ((s.flow != 0 || !s.keyAllowed) && x == '\t')).length
      = n := by
    have all : ∀ x ∈ List.replicate n ' ',
        (x == ' ' || ((s.flow != 0 || !s.keyAllowed) && x == '\t')) = true := by
      intro x member
      rw [List.eq_of_mem_replicate member]
      rfl
    rw [ahead, List.takeWhile_append_of_pos all, List.length_append, List.length_replicate]
    rcases rest with _ | ⟨c, rest⟩
    · rfl
    · have solid := (begins c rfl).1
      simp only [isBlank, Bool.or_eq_false_iff] at solid
      simp [solid.1, solid.2]
  have other : startsWith '#' (s.cursor.skip n).rest = false := by
    rw [rest_skip_blanks ahead]
    exact beq_eq_false_iff_ne.mpr fun comment => (begins _ comment).2.1 rfl
  unfold pastBlanks
  simp only [unmarked, ↓reduceIte, Cursor.skipWhile, blanks, other, Bool.false_eq_true]

theorem skipToToken_blanks {fuel : Nat} (ahead : s.cursor.rest = List.replicate n ' ' ++ rest)
    (begins : Begins rest) (solid : atBreak rest = false) :
    skipToToken (fuel + 1) s = { s with cursor := s.cursor.skip n } := by
  rw [skipToToken_succ, pastBlanks_eq ahead begins, rest_skip_blanks ahead, solid]
  rfl

theorem skipToToken_line {fuel : Nat} (ahead : s.cursor.rest = '\n' :: (List.replicate n ' ' ++ rest))
    (begins : Begins rest) (solid : atBreak rest = false) :
    skipToToken (fuel + 2) s =
      { s with cursor := s.cursor.skipLine.skip n, keyAllowed := s.keyAllowed || s.flow == 0 } := by
  have here : s.pastBlanks = s.cursor.skip 0 :=
    pastBlanks_eq (n := 0) ahead (forall_mem_some.mpr ⟨rfl, by decide, by decide⟩)
  have ended : s.cursor.skip 0 = s.cursor := by simp [Cursor.skip]
  have next : s.cursor.skipLine.rest = List.replicate n ' ' ++ rest := by
    unfold Cursor.skipLine
    rw [ahead]
    rfl
  have broken : atBreak s.cursor.rest = true := by
    rw [ahead]
    rfl
  rw [skipToToken_succ, here, ended, broken, if_pos rfl]
  exact skipToToken_blanks (s := { s with cursor := _, keyAllowed := _ }) next begins solid

/-! ### What begins here -/

theorem fetchHere_bracket (ahead : s.cursor.rest = '[' :: cs) :
    s.fetchHere = s.fetchOpening .flowSequenceStart := by
  simp [fetchHere, ahead, Cursor.atDocumentMarker]

theorem fetchHere_brace (ahead : s.cursor.rest = '\x7b' :: cs) :
    s.fetchHere = s.fetchOpening .flowMappingStart := by
  simp [fetchHere, ahead, Cursor.atDocumentMarker]

theorem fetchHere_closing_bracket (ahead : s.cursor.rest = ']' :: cs) :
    s.fetchHere = s.fetchClosing .flowSequenceEnd := by
  simp [fetchHere, ahead, Cursor.atDocumentMarker]

theorem fetchHere_closing_brace (ahead : s.cursor.rest = '\x7d' :: cs) :
    s.fetchHere = s.fetchClosing .flowMappingEnd := by
  simp [fetchHere, ahead, Cursor.atDocumentMarker]

theorem fetchHere_comma (ahead : s.cursor.rest = ',' :: cs) : s.fetchHere = s.fetchComma := by
  simp [fetchHere, ahead, Cursor.atDocumentMarker]

theorem fetchHere_colon (ahead : s.cursor.rest = ':' :: x :: cs) (spaced : (isBlank x || isBreak x) = true) :
    s.fetchHere = s.fetchValue := by
  simp [fetchHere, ahead, Cursor.atDocumentMarker, atBlankOrEnd, spaced]

theorem fetchHere_dash (ahead : s.cursor.rest = '-' :: ' ' :: cs) : s.fetchHere = s.fetchDash := by
  simp [fetchHere, ahead, Cursor.atDocumentMarker, atBlankOrEnd, isBlank]

theorem fetchHere_word (ahead : s.cursor.rest = w ++ cs) (word : IsWord w) : s.fetchHere = s.fetchPlain := by
  obtain ⟨filled, word⟩ := word
  rcases w with _ | ⟨y, w⟩
  · exact absurd rfl filled
  · have here := word y List.mem_cons_self
    have other : ∀ d ∈ ['%', '[', ']', '\x7b', '\x7d', ',', '-', '?', ':', '*', '&', '!', '|', '>', '\'',
        '"', '.'], (y = d) = False :=
      fun d member => eq_false fun same => not_mem_of_word rfl here (same ▸ member)
    simp only [List.forall_mem_cons] at other
    have unmarked : s.cursor.atDocumentMarker = false :=
      PlainScalar.not_atDocumentMarker ahead (ne_of_isWordChar here rfl) (ne_of_isWordChar here rfl)
    have inert : y ∉ indicators := not_mem_of_word rfl here
    have plain : startsPlain (s.flow != 0) y (w ++ cs) = true := by
      simp [startsPlain, isBlank_of_word here, isBreak_of_word here, inert]
    unfold fetchHere
    simp only [ahead, List.cons_append, unmarked, plain, other, and_false, Bool.false_eq_true, decide_false,
      Bool.false_and, ↓reduceIte]

end TokenStream

end Questionnaire.Yaml
