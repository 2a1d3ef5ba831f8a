import Questionnaire.Proofs.Yaml.Scalars
import Questionnaire.Yaml.Tag

/-!
Tags, anchors and directives end at places of their text, and so do the attempts to read them.
-/

namespace Questionnaire.Yaml

variable {text w rest : List Char} {c : Cursor} {x : Char} {start : Mark} {context : Context}

theorem placed_names (placed : c.Of text) :
    (c.skip (c.rest.takeWhile isNameChar).length).Of text :=
  placed.skipWhile fun _ => solid_of_refused rfl

namespace Tag

theorem scans_readOctet (placed : c.Of text) :
    Scans text (fun r => r.2.Of text) (readOctet context start c) := by
  unfold readOctet
  split
  · rename_i a b rest ahead
    split
    · rename_i high low
      have solid (d : Char) (known : (QuotedScalar.hexValue? d).isSome = true) : isBreak d = false :=
        solid_of_refused (p := fun d => (QuotedScalar.hexValue? d).isSome) rfl known
      have octet : Solid ['%', a, b] := by
        simp only [Solid, List.forall_mem_cons, List.not_mem_nil, false_implies, implies_true, and_true]
        exact ⟨rfl, solid a (by rw [high]; rfl), solid b (by rw [low]; rfl)⟩
      exact placed.over (w := ['%', a, b]) ahead octet
    · exact scans_failIn placed
  · exact scans_failIn placed

theorem scans_readTrailing {count value : Nat} (placed : c.Of text) :
    Scans text (fun r => r.2.Of text) (readTrailing context start count value c) := by
  induction count generalizing value c with
  | zero => exact placed
  | succ count ih =>
    have octet : Scans text (fun r => r.2.Of text) (readOctet context start c) := scans_readOctet placed
    unfold readTrailing
    split
    · rename_i refused
      exact octet.of_error refused
    · rename_i read
      split
      · exact ih (octet.of_ok read)
      · exact scans_failIn placed

theorem scans_readEscapes (placed : c.Of text) :
    Scans text (fun r => r.2.Of text) (readEscapes context start c) := by
  unfold readEscapes
  refine (scans_readOctet placed).bind fun octet read => ?_
  dsimp only
  split
  · exact scans_failIn placed
  · exact (scans_readTrailing read).bind fun _ read => read

theorem scans_readUri {full : Bool} {fuel : Nat} {done : List Char} (placed : c.Of text) :
    Scans text (fun r => r.2.Of text) (readUri full context start fuel done c) := by
  induction fuel generalizing done c with
  | zero => exact placed
  | succ fuel ih =>
    have escape : Scans text (fun r => r.2.Of text) (readEscapes context start c) := scans_readEscapes placed
    unfold readUri
    split
    · exact placed
    · rename_i x rest ahead
      split
      · split
        · rename_i refused
          exact escape.of_error refused
        · rename_i read
          exact ih (escape.of_ok read)
      · split
        · rename_i uri
          have known : isUriChar true x = true := by
            simp only [isUriChar, Bool.or_eq_true, Bool.and_eq_true] at uri ⊢
            tauto
          exact ih (placed.next ahead (solid_of_refused rfl known))
        · exact placed

theorem scans_readSuffix {full directive : Bool} {head : List Char} (placed : c.Of text) :
    Scans text (fun r => r.2.Of text) (readSuffix full directive head start c) := by
  unfold readSuffix
  refine (scans_readUri placed).bind fun uri read => ?_
  dsimp only
  split
  · exact scans_failIn read
  · exact read

theorem scans_readHandle {directive : Bool} (placed : c.Of text) :
    Scans text (fun r => r.2.Of text) (readHandle directive start c) := by
  unfold readHandle
  split
  · rename_i rest ahead
    have name : (c.skip (1 + (rest.takeWhile isNameChar).length)).Of text := by
      have names : Solid (rest.takeWhile isNameChar) := fun x member =>
        solid_of_refused rfl (List.mem_takeWhile_imp member)
      have whole : c.rest = '!' :: rest.takeWhile isNameChar ++ rest.dropWhile isNameChar := by
        rw [ahead, List.cons_append, List.takeWhile_append_dropWhile]
      have moved := placed.over whole (List.forall_mem_cons.mpr ⟨rfl, names⟩)
      rwa [List.length_cons, Nat.add_comm] at moved
    dsimp only
    generalize c.skip (1 + (rest.takeWhile isNameChar).length) = d at name ⊢
    split
    · rename_i closed
      obtain ⟨others, ahead⟩ := exists_of_startsWith closed
      exact name.next ahead rfl
    · split
      · exact scans_failIn name
      · exact name
  · exact scans_failIn placed

theorem scans_readParts (placed : c.Of text) :
    Scans text (fun r => r.2.2.Of text) (readParts start c) := by
  unfold readParts
  split
  · rename_i rest ahead
    have opened : (c.skip 2).Of text := placed.over (w := ['!', '<']) ahead (by decide)
    refine (scans_readSuffix opened).bind fun suffix read => ?_
    dsimp only
    split
    · rename_i closed
      obtain ⟨others, ahead⟩ := exists_of_startsWith closed
      exact read.next ahead rfl
    · exact scans_failIn read
  · refine (scans_readHandle placed).bind fun handle read => ?_
    dsimp only
    split
    · exact (scans_readSuffix read).bind fun _ read => read
    · refine (scans_readSuffix read).bind fun suffix read => ?_
      split
      · exact read
      · exact read

theorem scans_scan {flow : Bool} (placed : c.Of text) : Scans text (Fetches text) (scan flow c) := by
  unfold scan
  refine (scans_readParts placed).bind fun parts read => ?_
  exact scans_check read fun _ => ⟨⟨placed.mark, read.mark⟩, read⟩

end Tag

namespace Anchor

theorem scans_scan {kind : String → TokenKind} (placed : c.Of text) (ahead : c.rest = x :: rest)
    (solid : isBreak x = false) : Scans text (Fetches text) (scan kind context c) := by
  have named := placed_names (placed.next ahead solid)
  unfold scan
  dsimp only
  split
  · exact scans_failIn named
  · exact ⟨⟨placed.mark, named.mark⟩, named⟩

end Anchor

namespace Directive

theorem scans_readNumber (placed : c.Of text) :
    Scans text (fun r => r.2.Of text) (readNumber start c) := by
  have digits {n : Nat} (bounded : n ≤ (c.rest.takeWhile Char.isDigit).length) : (c.skip n).Of text :=
    placed.skipUpTo (fun _ => solid_of_refused rfl) bounded
  unfold readNumber
  dsimp only
  split
  · exact scans_failIn placed
  · split
    · rename_i long
      exact scans_failIn (digits long.le)
    · exact digits le_rfl

theorem scans_readVersion (placed : c.Of text) :
    Scans text (fun r => r.2.Of text) (readVersion start c) := by
  unfold readVersion
  refine (scans_readNumber placed.skipBlanks).bind fun major read => ?_
  refine scans_check read fun pointed => ?_
  have point : startsWith '.' major.2.rest = true := by simpa using pointed
  obtain ⟨others, ahead⟩ := exists_of_startsWith point
  exact (scans_readNumber (read.next ahead rfl)).bind fun _ read => read

theorem scans_readTag (placed : c.Of text) : Scans text (fun r => r.2.Of text) (readTag start c) := by
  unfold readTag
  refine (Tag.scans_readHandle placed.skipBlanks).bind fun handle read => ?_
  refine scans_check read fun _ => ?_
  refine (Tag.scans_readSuffix read.skipBlanks).bind fun uri read => ?_
  exact scans_check read fun _ => read

theorem scans_scan (placed : c.Of text) (ahead : c.rest = x :: rest)
    (solid : isBreak x = false) : Scans text (Fetches text) (scan c) := by
  have named := placed_names (placed.next ahead solid)
  unfold scan
  refine scans_check named fun _ => ?_
  refine scans_check named fun _ => ?_
  have ending (r : TokenKind × Cursor) (read : r.2.Of text) :
      Fetches text (⟨r.1, c.mark, r.2.mark⟩, (if startsWith '#' r.2.skipBlanks.rest then
        r.2.skipBlanks.skipToBreak else r.2.skipBlanks).skipLine) :=
    ⟨⟨placed.mark, read.mark⟩, read.skipBlanks.skipComment.skipLine⟩
  split
  · refine (scans_readVersion named).bind fun r read => ?_
    exact scans_check read.skipBlanks.skipComment fun _ => ending r read
  · split
    · refine (scans_readTag named).bind fun r read => ?_
      exact scans_check read.skipBlanks.skipComment fun _ => ending r read
    · exact named.mark

end Directive

end Questionnaire.Yaml
