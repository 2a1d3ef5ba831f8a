import Questionnaire.Proofs.Yaml.Tags
import Questionnaire.Yaml.TokenStream

/-!
The tokens of a text are at places of it.

`TokenStream.Of` is kept by every step of the splitting. A token that turns out to be a key goes in front of
others, but with the mark that it had when it was met; only the end of the text is told where it is not.
-/

namespace Questionnaire.Yaml

variable {text rest : List Char} {x : Char}

namespace TokenStream

/-- Whatever waits, and whatever may become a key, has marks of the text. -/
structure Of (text : List Char) (s : TokenStream) : Prop where
  cursor : s.cursor.Of text
  queue : ∀ t ∈ s.queue, t.Of text
  keys : ∀ key ∈ s.keys, ∀ k ∈ key, k.mark.Of text

variable {s : TokenStream} {t : Token} {m : Mark} {kind : TokenKind} {number : Nat} {allowed : Bool}
  {key : PossibleKey} {keys : List (Option PossibleKey)}

theorem of_ofChars (text : List Char) : (ofChars text).Of text where
  cursor := Cursor.of_start text
  queue := List.forall_mem_singleton.mpr ⟨(Cursor.of_start text).mark, (Cursor.of_start text).mark⟩
  keys := List.forall_mem_singleton.mpr forall_mem_none

theorem Of.mark (placed : s.Of text) : s.mark.Of text := placed.cursor.mark

theorem Of.enqueue (placed : s.Of text) (token : t.Of text) : (s.enqueue t).Of text where
  cursor := placed.cursor
  queue := List.forall_mem_append.mpr ⟨placed.queue, List.forall_mem_singleton.mpr token⟩
  keys := placed.keys

theorem Of.insertBefore (placed : s.Of text) (token : t.Of text) : (s.insertBefore number t).Of text where
  cursor := placed.cursor
  queue := by
    intro u member
    rcases List.mem_append.mp member with first | later
    · exact placed.queue u (List.mem_of_mem_take first)
    · rcases List.mem_cons.mp later with rfl | later
      · exact token
      · exact placed.queue u (List.mem_of_mem_drop later)
  keys := placed.keys

theorem Of.allowKey (placed : s.Of text) : (s.allowKey allowed).Of text := ⟨placed.cursor, placed.queue, placed.keys⟩

/-! ### Keys -/

theorem Of.withKeys (placed : s.Of text) (marked : ∀ key ∈ keys, ∀ k ∈ key, k.mark.Of text) :
    { s with keys := keys }.Of text :=
  ⟨placed.cursor, placed.queue, marked⟩

/-- What is got without moving. -/
def Stays (text : List Char) (s t : TokenStream) : Prop := t.Of text ∧ t.cursor = s.cursor

theorem scans_dropKey {key : Option PossibleKey} (placed : s.Of text) (marked : ∀ k ∈ key, k.mark.Of text) :
    Scans text (fun key => ∀ k ∈ key, k.mark.Of text) (s.dropKey key) := by
  unfold dropKey
  split
  · exact forall_mem_none
  · split
    · split
      · exact placed.mark
      · exact forall_mem_none
    · exact marked

theorem scans_dropStale (placed : s.Of text) : Scans text (Of text) s.dropStale :=
  (settles_mapM_forall fun key member => scans_dropKey placed (placed.keys key member)).map
    fun _ marked => placed.withKeys marked

theorem scans_forgetKey (placed : s.Of text) : Scans text (Stays text s) s.forgetKey := by
  unfold forgetKey
  split
  · rename_i key keys waiting
    split
    · exact placed.mark
    · have marked := placed.keys
      rw [waiting] at marked
      exact ⟨placed.withKeys (List.forall_mem_cons.mpr ⟨forall_mem_none, (List.forall_mem_cons.mp marked).2⟩), rfl⟩
  · exact ⟨placed, rfl⟩

theorem scans_saveKey (placed : s.Of text) : Scans text (Stays text s) s.saveKey := by
  unfold saveKey
  split
  · refine (scans_forgetKey placed).map fun t ⟨forgot, stays⟩ => ⟨forgot.withKeys ?_, stays⟩
    have others : ∀ key ∈ t.keys.drop 1, ∀ k ∈ key, k.mark.Of text := fun key member =>
      forgot.keys key (List.mem_of_mem_drop member)
    exact List.forall_mem_cons.mpr ⟨forall_mem_some.mpr placed.mark, others⟩
  · exact ⟨placed, rfl⟩

/-! ### Blocks -/

theorem Of.roll {column : Nat} {number : Option Nat} (placed : s.Of text) (marked : m.Of text) :
    Stays text s (s.roll column number kind m) := by
  have deeper : { s with indents := column :: s.indents }.Of text := ⟨placed.cursor, placed.queue, placed.keys⟩
  unfold TokenStream.roll
  split
  · exact ⟨placed, rfl⟩
  · cases number with
    | none => exact ⟨deeper.enqueue ⟨marked, marked⟩, rfl⟩
    | some n => exact ⟨deeper.insertBefore ⟨marked, marked⟩, rfl⟩

theorem Of.unroll {column : Option Nat} (placed : s.Of text) : Stays text s (s.unroll column) := by
  unfold TokenStream.unroll
  split
  · exact ⟨placed, rfl⟩
  · refine ⟨⟨placed.cursor, List.forall_mem_append.mpr ⟨placed.queue, ?_⟩, placed.keys⟩, rfl⟩
    intro t member
    obtain ⟨-, -, rfl⟩ := List.mem_map.mp member
    exact ⟨placed.mark, placed.mark⟩

/-! ### Single tokens -/

theorem Of.accept {r : Token × Cursor} (placed : s.Of text) (fetched : Fetches text r) :
    (s.accept r).Of text :=
  Of.enqueue ⟨fetched.2, placed.queue, placed.keys⟩ fetched.1

theorem Of.mark? {n : Nat} (placed : s.Of text) (moved : (s.cursor.skip n).Of text) :
    (s.mark? kind n).Of text := by
  have fetched : Fetches text (⟨kind, s.mark, (s.cursor.skip n).mark⟩, s.cursor.skip n) :=
    ⟨⟨placed.mark, moved.mark⟩, moved⟩
  exact placed.accept fetched

theorem scans_fetchEnd (placed : s.Of text) (ended : s.cursor.rest = []) :
    Scans text (Of text) s.fetchEnd := by
  have last := placed.cursor.atEnd ended
  have moved : { s with cursor := ⟨[], if s.mark.column = 0 then s.mark else
      ⟨s.mark.index, s.mark.line + 1, 0⟩⟩ }.Of text := ⟨last, placed.queue, placed.keys⟩
  refine (scans_forgetKey moved.unroll.1).bind fun t ⟨forgot, _⟩ => ?_
  have token : Token.Of text ⟨.streamEnd, _, _⟩ := ⟨last.mark, last.mark⟩
  have closed : ((t.allowKey false).enqueue ⟨.streamEnd, _, _⟩).Of text := forgot.allowKey.enqueue token
  exact ⟨closed.cursor, closed.queue, closed.keys⟩

/-- A fetch that first forgets the saved key keeps to the marks if what it does next, still at that
character of a line, does. -/
theorem scans_forgetting {t : TokenStream} {next : TokenStream → Except FormError TokenStream}
    (stays : Stays text s t)
    (follows : ∀ u, Stays text s u → Scans text (Of text) (next u)) :
    Scans text (Of text) (t.forgetKey >>= next) :=
  (scans_forgetKey stays.1).bind fun u ⟨forgot, same⟩ => follows u ⟨forgot, same.trans stays.2⟩

section

variable (placed : s.Of text) (ahead : s.cursor.rest = x :: rest) (solid : isBreak x = false)
include placed ahead solid

theorem Stays.mark? {t : TokenStream} (stays : Stays text s t) : (t.mark? kind 1).Of text := by
  refine stays.1.mark? ?_
  rw [stays.2]
  exact placed.cursor.next ahead solid

theorem scans_fetchDirective : Scans text (Of text) s.fetchDirective := by
  refine scans_forgetting placed.unroll fun u ⟨forgot, same⟩ => ?_
  rw [same]
  refine (Directive.scans_scan placed.cursor ahead solid).bind fun r fetched => ?_
  exact forgot.allowKey.accept fetched

theorem scans_fetchOpening : Scans text (Of text) (s.fetchOpening kind) := by
  refine (scans_saveKey placed).bind fun t ⟨saved, same⟩ => ?_
  have opened : { t with keys := none :: t.keys, flow := t.flow + 1 }.Of text :=
    ⟨saved.cursor, saved.queue, List.forall_mem_cons.mpr ⟨forall_mem_none, saved.keys⟩⟩
  exact Stays.mark? placed ahead solid ⟨opened.allowKey, same⟩

theorem scans_fetchClosing : Scans text (Of text) (s.fetchClosing kind) := by
  refine scans_forgetting ⟨placed, rfl⟩ fun t ⟨forgot, same⟩ => ?_
  have closed : Stays text s (if t.flow = 0 then t else
      { t with keys := t.keys.drop 1, flow := t.flow - 1 }) := by
    split
    · exact ⟨forgot, same⟩
    · exact ⟨⟨forgot.cursor, forgot.queue, fun key member => forgot.keys key (List.mem_of_mem_drop member)⟩, same⟩
  exact Stays.mark? placed ahead solid ⟨closed.1.allowKey, closed.2⟩

theorem scans_fetchComma : Scans text (Of text) s.fetchComma := by
  refine scans_forgetting ⟨placed, rfl⟩ fun t ⟨forgot, same⟩ => ?_
  exact Stays.mark? placed ahead solid ⟨forgot.allowKey, same⟩

theorem scans_fetchDash : Scans text (Of text) s.fetchDash := by
  refine settles_refuse placed.mark fun _ => ?_
  refine scans_forgetting (placed.roll placed.mark) fun t ⟨forgot, same⟩ => ?_
  exact Stays.mark? placed ahead solid ⟨forgot.allowKey, same⟩

theorem scans_fetchKey : Scans text (Of text) s.fetchKey := by
  refine settles_refuse placed.mark fun _ => ?_
  refine scans_forgetting (placed.roll placed.mark) fun t ⟨forgot, same⟩ => ?_
  exact Stays.mark? placed ahead solid ⟨forgot.allowKey, same⟩

theorem scans_fetchValue : Scans text (Of text) s.fetchValue := by
  unfold fetchValue
  split
  · rename_i key keys waiting
    have marked := placed.keys
    rw [waiting] at marked
    obtain ⟨here, later⟩ := List.forall_mem_cons.mp marked
    have marked := here key rfl
    have token : Token.Of text ⟨.key, key.mark, key.mark⟩ := ⟨marked, marked⟩
    obtain ⟨rolled, same⟩ := (placed.insertBefore token).roll marked
    have forgot : ∀ key ∈ none :: keys, ∀ k ∈ key, PossibleKey.mark k |>.Of text :=
      List.forall_mem_cons.mpr ⟨forall_mem_none, later⟩
    exact Stays.mark? placed ahead solid ⟨(rolled.withKeys forgot).allowKey, same⟩
  · split
    · exact placed.mark
    · obtain ⟨rolled, same⟩ := placed.roll placed.mark
      exact Stays.mark? placed ahead solid ⟨rolled.allowKey, same⟩

theorem scans_fetchBlock {literal : Bool} : Scans text (Of text) (s.fetchBlock literal) := by
  refine scans_forgetting ⟨placed, rfl⟩ fun t ⟨forgot, same⟩ => ?_
  rw [same]
  refine (BlockScalar.scans_scan placed.cursor ahead solid).bind fun r fetched => ?_
  exact forgot.allowKey.accept fetched

end

theorem scans_fetchMarker (placed : s.Of text) (marker : s.cursor.atDocumentMarker = true) :
    Scans text (Of text) (s.fetchMarker kind) := by
  have moved : (s.cursor.skip 3).Of text := by
    unfold Cursor.atDocumentMarker at marker
    have marker := (Bool.and_eq_true_iff.mp marker).2
    split at marker
    · rename_i rest ahead
      exact placed.cursor.over (w := ['-', '-', '-']) ahead (by decide)
    · rename_i rest ahead
      exact placed.cursor.over (w := ['.', '.', '.']) ahead (by decide)
    · cases marker
  refine scans_forgetting placed.unroll fun t ⟨forgot, same⟩ => ?_
  exact forgot.allowKey.mark? (by rw [← same] at moved; exact moved)

theorem scans_fetchScanned {scan : Cursor → Except FormError (Token × Cursor)} (placed : s.Of text)
    (scanned : Scans text (Fetches text) (scan s.cursor)) : Scans text (Of text) (s.fetchScanned scan) := by
  refine (scans_saveKey placed).bind fun t ⟨saved, same⟩ => ?_
  rw [same]
  exact scanned.bind fun r fetched => saved.allowKey.accept fetched

theorem scans_fetchPlain (placed : s.Of text) : Scans text (Of text) s.fetchPlain := by
  refine (scans_saveKey placed).bind fun t ⟨saved, same⟩ => ?_
  exact (PlainScalar.scans_scan saved.cursor).bind fun r fetched => saved.allowKey.accept fetched

/-! ### Fetching -/

theorem Of.skipToToken {fuel : Nat} (placed : s.Of text) : (skipToToken fuel s).Of text := by
  induction fuel generalizing s with
  | zero => exact placed
  | succ fuel ih =>
    have unmarked : (if s.mark.index = 0 ∧ s.cursor.rest.head? = some '\ufeff' then s.cursor.skip 1
        else s.cursor).Of text := by
      split
      · rename_i ordered
        obtain ⟨rest, ahead⟩ : ∃ rest, s.cursor.rest = '\ufeff' :: rest :=
          exists_of_startsWith (by rw [startsWith, ordered.2]; rfl)
        exact placed.cursor.next ahead rfl
      · exact placed.cursor
    unfold TokenStream.skipToToken
    dsimp only
    generalize (if s.mark.index = 0 ∧ s.cursor.rest.head? = some '\ufeff' then s.cursor.skip 1
      else s.cursor) = c at unmarked ⊢
    have blanks : (c.skipWhile fun x =>
        x == ' ' || ((s.flow != 0 || !s.keyAllowed) && x == '\t')).Of text := by
      refine unmarked.skipWhile fun x skipped => ?_
      have blank : isBlank x = true := by
        simp only [isBlank, Bool.or_eq_true, Bool.and_eq_true] at skipped ⊢
        tauto
      exact solid_of_refused rfl blank
    generalize (c.skipWhile fun x =>
      x == ' ' || ((s.flow != 0 || !s.keyAllowed) && x == '\t')) = c at blanks ⊢
    have comment := blanks.skipComment
    generalize (if startsWith '#' c.rest then c.skipToBreak else c) = c at comment ⊢
    split
    · exact ih ⟨comment.skipLine, placed.queue, placed.keys⟩
    · exact ⟨comment, placed.queue, placed.keys⟩

theorem scans_fetchHere (placed : s.Of text) : Scans text (Of text) s.fetchHere := by
  unfold fetchHere
  dsimp only
  split
  · rename_i ended
    exact scans_fetchEnd placed ended
  · rename_i c cs ahead
    have named {d : Char} (same : c = d) (inside : isBreak d = false) : isBreak c = false := same ▸ inside
    have both {d : Char} {b : Bool} (same : (c == d && b) = true) (inside : isBreak d = false) :
        isBreak c = false :=
      named (eq_of_beq (Bool.and_eq_true_iff.mp same).1) inside
    refine settles_ite (fun h => scans_fetchDirective placed ahead (named h.2 rfl)) fun _ => ?_
    refine settles_ite (fun h => scans_fetchMarker placed h) fun _ => ?_
    refine settles_ite (fun h => scans_fetchOpening placed ahead (named h rfl)) fun _ => ?_
    refine settles_ite (fun h => scans_fetchOpening placed ahead (named h rfl)) fun _ => ?_
    refine settles_ite (fun h => scans_fetchClosing placed ahead (named h rfl)) fun _ => ?_
    refine settles_ite (fun h => scans_fetchClosing placed ahead (named h rfl)) fun _ => ?_
    refine settles_ite (fun h => scans_fetchComma placed ahead (named h rfl)) fun _ => ?_
    refine settles_ite (fun h => scans_fetchDash placed ahead (both h rfl)) fun _ => ?_
    refine settles_ite (fun h => scans_fetchKey placed ahead (both h rfl)) fun _ => ?_
    refine settles_ite (fun h => scans_fetchValue placed ahead (both h rfl)) fun _ => ?_
    refine settles_ite (fun h => ?_) fun _ => ?_
    · exact scans_fetchScanned placed (Anchor.scans_scan placed.cursor ahead (named h rfl))
    refine settles_ite (fun h => ?_) fun _ => ?_
    · exact scans_fetchScanned placed (Anchor.scans_scan placed.cursor ahead (named h rfl))
    refine settles_ite (fun h => ?_) fun _ => ?_
    · exact scans_fetchScanned placed (Tag.scans_scan placed.cursor)
    refine settles_ite (fun h => scans_fetchBlock placed ahead (both h rfl)) fun _ => ?_
    refine settles_ite (fun h => scans_fetchBlock placed ahead (both h rfl)) fun _ => ?_
    refine settles_ite (fun h => ?_) fun _ => ?_
    · exact scans_fetchScanned placed (QuotedScalar.scans_scan placed.cursor ahead (named h rfl))
    refine settles_ite (fun h => ?_) fun _ => ?_
    · exact scans_fetchScanned placed (QuotedScalar.scans_scan placed.cursor ahead (named h rfl))
    exact settles_ite (fun _ => scans_fetchPlain placed) fun _ => scans_failIn placed.cursor

theorem scans_fetch (placed : s.Of text) : Scans text (Of text) s.fetch :=
  (scans_dropStale placed.skipToToken).bind fun _ kept => scans_fetchHere kept.unroll.1

theorem scans_settle {fuel : Nat} (placed : s.Of text) : Scans text (Of text) (settle fuel s) := by
  induction fuel generalizing s with
  | zero => exact placed
  | succ fuel ih =>
    unfold settle
    split
    · have fetched := scans_fetch placed
      split
      · rename_i refused
        exact fetched.of_error refused
      · rename_i read
        exact ih (fetched.of_ok read)
    · have kept := scans_dropStale placed
      split
      · rename_i refused
        exact kept.of_error refused
      · rename_i t read
        have fetched := scans_fetch (kept.of_ok read)
        split
        · split
          · rename_i refused
            exact fetched.of_error refused
          · rename_i read
            exact ih (fetched.of_ok read)
        · exact kept.of_ok read

/-- What there is of a text has marks of it: the tokens, and the problem behind them. -/
def Tells (good : Mark → Prop) (r : List Token × Option FormError) : Prop :=
  (∀ t ∈ r.1, good t.start ∧ good t.stop) ∧ ∀ e ∈ r.2, good e.mark

theorem run_tells {fuel : Nat} (placed : s.Of text) : Tells (Mark.Of text) (run fuel s) := by
  induction fuel generalizing s with
  | zero => exact ⟨List.forall_mem_nil _, forall_mem_none⟩
  | succ fuel ih =>
    have settled : Scans text (Of text) (s.settle (s.cursor.rest.length + 2)) := scans_settle placed
    unfold run
    split
    · rename_i e refused
      exact ⟨List.forall_mem_nil _, forall_mem_some.mpr (settled.of_error refused)⟩
    · rename_i u read
      obtain ⟨cursor, queue, keys⟩ := settled.of_ok read
      split
      · exact ⟨List.forall_mem_nil _, forall_mem_none⟩
      · rename_i t others waiting
        rw [waiting] at queue
        obtain ⟨here, later⟩ := List.forall_mem_cons.mp queue
        split
        · exact ⟨List.forall_mem_singleton.mpr here, forall_mem_none⟩
        · have next : { u with queue := others, taken := u.taken + 1 }.Of text := ⟨cursor, later, keys⟩
          obtain ⟨tokens, problem⟩ := ih next
          exact ⟨List.forall_mem_cons.mpr ⟨here, tokens⟩, problem⟩

end TokenStream

theorem tokens_tells (text : List Char) : TokenStream.Tells (Mark.Of text) (tokens text) := by
  unfold tokens
  split
  · exact TokenStream.run_tells (TokenStream.of_ofChars text)
  · exact ⟨List.forall_mem_nil _, forall_mem_some.mpr (Cursor.of_start text).mark⟩

end Questionnaire.Yaml
