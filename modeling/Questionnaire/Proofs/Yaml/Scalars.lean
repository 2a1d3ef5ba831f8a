import Questionnaire.Proofs.Yaml.Marks
import Questionnaire.Yaml.BlockScalar
import Questionnaire.Yaml.PlainScalar
import Questionnaire.Yaml.QuotedScalar

/-!
Scalars end at places of their text, and so do the attempts to read them.
-/

namespace Questionnaire.Yaml

variable {text w rest : List Char} {c : Cursor} {x : Char} {start : Mark}

/-- A token and the place behind it. -/
def Fetches (text : List Char) (r : Token × Cursor) : Prop := r.1.Of text ∧ r.2.Of text

theorem Gap.scans_read {tabs : Cursor → Except FormError Unit} {fuel : Nat} {gap : Gap}
    (judged : ∀ here : Cursor, here.Of text → Scans text (fun _ => True) (tabs here)) (placed : c.Of text) :
    Scans text (fun r => r.2.Of text) (read tabs fuel gap c) := by
  induction fuel generalizing gap c with
  | zero => exact placed
  | succ fuel ih =>
    unfold read
    split
    · exact placed
    · rename_i x rest ahead
      split
      · rename_i blank
        have solid : isBreak x = false := solid_of_refused rfl blank
        split
        · rename_i e refused
          split at refused
          · exact (judged c placed).of_error refused
          · cases refused
        · exact ih (placed.next ahead solid)
      · split
        · exact ih placed.skipLine
        · exact placed

/-! ### Quotes -/

namespace QuotedScalar

theorem solid_of_hexNumber? {count n : Nat} {cs : List Char} (read : hexNumber? count cs = some n) :
    Solid (cs.take count) ∧ (cs.take count).length = count := by
  have digits (ds : List Char) (m : Nat)
      (folded : ds.foldlM (fun n c => (hexValue? c).map (n * 16 + ·)) m = some n) : Solid ds := by
    induction ds generalizing m with
    | nil => exact List.forall_mem_nil _
    | cons d ds ih =>
      obtain ⟨next, taken, folded⟩ := Option.bind_eq_some_iff.mp folded
      obtain ⟨value, valued, -⟩ := Option.map_eq_some_iff.mp taken
      have solid : isBreak d = false :=
        solid_of_refused (p := fun c => (hexValue? c).isSome) rfl (by rw [valued]; rfl)
      exact List.forall_mem_cons.mpr ⟨solid, ih next folded⟩
  unfold hexNumber? at read
  simp only at read
  split at read
  · cases read
  · rename_i enough
    have short := List.length_take_le count cs
    exact ⟨digits _ 0 read, by omega⟩

theorem scans_readEscape (placed : c.Of text) (ahead : c.rest = '\\' :: rest) :
    Scans text (fun r => r.2.Of text) (readEscape start c) := by
  unfold readEscape
  split
  · rename_i first letter others cursor
    obtain ⟨rfl, -⟩ := List.cons.inj (ahead.symm.trans cursor)
    have moved (known : (escape? letter).isSome || (codeLength? letter).isSome) : (c.skip 2).Of text := by
      have solid : isBreak letter = false :=
        solid_of_refused (p := fun c => (escape? c).isSome || (codeLength? c).isSome) rfl known
      have pair : Solid ['\\', letter] :=
        List.forall_mem_cons.mpr ⟨rfl, List.forall_mem_singleton.mpr solid⟩
      exact placed.over (w := ['\\', letter]) cursor pair
    split
    · rename_i y named
      exact moved (by rw [named]; rfl)
    · rename_i count unnamed coded
      have moved := moved (by rw [coded, Bool.or_eq_true]; exact .inr rfl)
      dsimp only
      split
      · exact scans_failIn moved
      · rename_i n read
        split
        · exact scans_failIn moved
        · obtain ⟨solid, length⟩ := solid_of_hexNumber? read
          have passed := moved.over (List.take_append_drop count _).symm solid
          rwa [length] at passed
    · exact scans_failIn placed
  · exact scans_failIn placed

theorem scans_word {single : Bool} {fuel : Nat} {done : List Char} (placed : c.Of text) :
    Scans text (fun r => r.2.2.Of text) (word single start fuel done c) := by
  induction fuel generalizing done c with
  | zero => exact placed
  | succ fuel ih =>
    unfold word
    split
    · exact placed
    · rename_i x rest ahead
      split
      · exact placed
      · rename_i inside
        have solid : isBreak x = false := by
          by_contra ended
          simp [ended] at inside
        have moved : (c.skip 1).Of text := placed.next ahead solid
        split
        · split
          · rename_i quote
            split
            · rename_i doubled
              subst quote
              obtain ⟨others, rfl⟩ := exists_of_startsWith doubled
              exact ih (placed.over (w := ['\'', '\'']) ahead (by decide))
            · exact placed
          · exact ih moved
        · split
          · exact placed
          · split
            · rename_i backslash
              split
              · exact moved.skipLine
              · subst backslash
                have escaped : Scans text (fun r => r.2.Of text) (readEscape start c) :=
                  scans_readEscape placed ahead
                split
                · rename_i refused
                  exact escaped.of_error refused
                · rename_i read
                  exact ih (escaped.of_ok read)
            · exact ih moved

theorem scans_words {single : Bool} {fuel : Nat} {content : List Char} (placed : c.Of text) :
    Scans text (fun r => r.2.Of text) (words single start fuel content c) := by
  induction fuel generalizing content c with
  | zero => exact scans_failIn placed
  | succ fuel ih =>
    unfold words
    split
    · exact scans_failIn placed
    · split
      · exact scans_failIn placed
      · have first : Scans text (fun r => r.2.2.Of text)
            (word single start (c.rest.length + 1) [] c) := scans_word placed
        split
        · rename_i refused
          exact first.of_error refused
        · rename_i w escapedBreak c read
          have placed : c.Of text := first.of_ok read
          dsimp only
          by_cases closed : startsWith (if single then '\'' else '"') c.rest = true
          · rw [if_pos closed]
            obtain ⟨rest, ahead⟩ := exists_of_startsWith closed
            exact placed.next ahead (by split <;> rfl)
          · rw [if_neg closed]
            have gap : Scans text (fun r => r.2.Of text) (Gap.read (fun _ => .ok ()) (c.rest.length + 1)
                (if escapedBreak then .escaped else .none) c) :=
              Gap.scans_read (fun _ _ => trivial) placed
            split
            · rename_i refused
              exact gap.of_error refused
            · rename_i read
              exact ih (gap.of_ok read)

theorem scans_scan {single : Bool} (placed : c.Of text) (ahead : c.rest = x :: rest)
    (solid : isBreak x = false) : Scans text (Fetches text) (scan single c) := by
  have opened : (c.skip 1).Of text := placed.next ahead solid
  exact (scans_words opened).map fun _ closed => ⟨⟨placed.mark, closed.mark⟩, closed⟩

end QuotedScalar

/-! ### Blocks -/

namespace BlockScalar

theorem scans_readIncrement (placed : c.Of text) :
    Scans text (fun r => r.2.Of text) (readIncrement start c) := by
  unfold readIncrement
  split
  · rename_i x rest ahead
    split
    · exact scans_failIn placed
    · split
      · rename_i digit
        exact placed.next ahead (solid_of_refused rfl digit)
      · exact placed
  · exact placed

theorem placed_chomping {chomping : Chomping} (placed : c.Of text)
    (found : c.rest.head?.bind chomping? = some chomping) : (c.skip 1).Of text := by
  cases ahead : c.rest with
  | nil =>
    rw [ahead] at found
    cases found
  | cons x rest =>
    rw [ahead] at found
    have known : (chomping? x).isSome = true := by
      rw [show chomping? x = some chomping from found]
      rfl
    exact placed.next ahead (solid_of_refused (p := fun c => (chomping? c).isSome) rfl known)

theorem scans_readHeader (placed : c.Of text) :
    Scans text (fun r => r.2.2.Of text) (readHeader start c) := by
  unfold readHeader
  split
  · rename_i chomping found
    exact (scans_readIncrement (placed_chomping placed found)).map fun _ moved => moved
  · refine (scans_readIncrement placed).map fun r moved => ?_
    dsimp only
    split
    · rename_i found
      split at found
      · cases found
      · exact placed_chomping moved found
    · exact moved

theorem scans_readBreaks {indent fuel widest : Nat} {breaks : List Char} {stop : Mark}
    (stopped : stop.Of text) (placed : c.Of text) :
    Scans text (fun r => r.2.2.1.Of text ∧ r.2.2.2.Of text)
      (readBreaks start indent fuel breaks widest stop c) := by
  induction fuel generalizing breaks widest stop c with
  | zero => exact ⟨stopped, placed⟩
  | succ fuel ih =>
    unfold readBreaks
    have spaces {n : Nat} (bounded : n ≤ (c.rest.takeWhile (· == ' ')).length) : (c.skip n).Of text :=
      placed.skipUpTo (fun x space => by rw [eq_of_beq space]; rfl) bounded
    have indented : (c.skip (if indent = 0 then (c.rest.takeWhile (· == ' ')).length
        else min (c.rest.takeWhile (· == ' ')).length (indent - c.mark.column))).Of text := by
      split
      · exact spaces le_rfl
      · exact spaces (Nat.min_le_left _ _)
    dsimp only
    generalize c.skip (if indent = 0 then (c.rest.takeWhile (· == ' ')).length
      else min (c.rest.takeWhile (· == ' ')).length (indent - c.mark.column)) = d at indented ⊢
    split
    · exact scans_failIn indented
    · split
      · exact ih indented.skipLine.mark indented.skipLine
      · exact ⟨stopped, indented⟩

theorem scans_readLines {literal leadingBlank : Bool} {indent fuel : Nat}
    {content first breaks : List Char} {stop : Mark} (stopped : stop.Of text) (placed : c.Of text) :
    Scans text (fun r => r.2.2.2.1.Of text ∧ r.2.2.2.2.Of text)
      (readLines literal start indent fuel content first breaks leadingBlank stop c) := by
  induction fuel generalizing content first breaks leadingBlank stop c with
  | zero => exact ⟨stopped, placed⟩
  | succ fuel ih =>
    unfold readLines
    split
    · exact ⟨stopped, placed⟩
    · have next : (c.skip (c.rest.takeWhile fun x => !isBreak x).length).skipLine.Of text :=
        placed.skipToBreak.skipLine
      dsimp only
      generalize (c.skip (c.rest.takeWhile fun x => !isBreak x).length).skipLine = d at next ⊢
      have read : Scans text (fun r => r.2.2.1.Of text ∧ r.2.2.2.Of text)
          (readBreaks start indent (d.rest.length + 1) [] 0 d.mark d) := scans_readBreaks next.mark next
      split
      · rename_i refused
        exact read.of_error refused
      · rename_i skipped
        obtain ⟨stopped, placed⟩ := read.of_ok skipped
        exact ih stopped placed

theorem scans_scan {literal : Bool} {parent : Option Nat} (placed : c.Of text) (ahead : c.rest = x :: rest)
    (solid : isBreak x = false) : Scans text (Fetches text) (scan literal parent c) := by
  unfold scan
  refine (scans_readHeader (placed.next ahead solid)).bind fun header read => ?_
  have ended := read.skipBlanks.skipComment
  refine scans_check ended fun _ => ?_
  have next := ended.skipLine
  refine (scans_readBreaks next.mark next).bind fun breaks skipped => ?_
  refine (scans_readLines skipped.1 skipped.2).bind fun lines read => ?_
  exact ⟨⟨placed.mark, read.1⟩, read.2⟩

end BlockScalar

/-! ### Plain scalars -/

namespace PlainScalar

theorem word_append (flow : Bool) (cs : List Char) :
    ∃ others, cs = (word flow cs).1 ++ others ∧ Solid (word flow cs).1 := by
  induction cs with
  | nil => exact ⟨[], rfl, List.forall_mem_nil _⟩
  | cons c cs ih =>
    obtain ⟨others, whole, solid⟩ := ih
    unfold word
    split
    · exact ⟨_, rfl, List.forall_mem_nil _⟩
    · rename_i inside
      have here : isBreak c = false := by
        by_contra ended
        simp [ended] at inside
      split
      · exact ⟨_, rfl, List.forall_mem_nil _⟩
      · split
        · exact ⟨_, rfl, List.forall_mem_nil _⟩
        · split
          · exact ⟨_, rfl, List.forall_mem_nil _⟩
          · exact ⟨others, congrArg (c :: ·) whole, List.forall_mem_cons.mpr ⟨here, solid⟩⟩

theorem scans_words {flow : Bool} {indent fuel : Nat} {content : List Char} {gap : Gap} {stop : Mark}
    (stopped : stop.Of text) (placed : c.Of text) :
    Scans text (fun r => r.2.1.Of text ∧ r.2.2.2.Of text)
      (words flow indent start fuel content gap stop c) := by
  induction fuel generalizing content gap stop c with
  | zero => exact ⟨stopped, placed⟩
  | succ fuel ih =>
    unfold words
    split
    · exact ⟨stopped, placed⟩
    · obtain ⟨others, whole, solid⟩ := word_append flow c.rest
      have moved : (c.skip (word flow c.rest).1.length).Of text := placed.over whole solid
      split
      · rename_i w read
        rw [read] at moved
        exact scans_failIn moved
      · exact ⟨stopped, placed⟩
      · rename_i w _ read
        rw [read] at moved
        dsimp only
        generalize c.skip w.length = d at moved ⊢
        split
        · exact ⟨moved.mark, moved⟩
        · have gap : Scans text (fun r => r.2.Of text) (Gap.read (fun here =>
              if here.mark.column < indent then here.failIn .plainScalar start .tabViolatesIndentation
              else .ok ()) (d.rest.length + 1) .none d) := by
            refine Gap.scans_read (fun here inside => ?_) moved
            split
            · exact scans_failIn inside
            · exact trivial
          split
          · rename_i refused
            exact gap.of_error refused
          · rename_i read
            split
            · exact ⟨moved.mark, gap.of_ok read⟩
            · exact ih moved.mark (gap.of_ok read)

theorem scans_scan {flow : Bool} {indent : Nat} (placed : c.Of text) :
    Scans text (fun r => r.1.Of text ∧ r.2.2.Of text) (scan flow indent c) :=
  (scans_words placed.mark placed).map fun _ read => ⟨⟨placed.mark, read.1⟩, read.2⟩

end PlainScalar

end Questionnaire.Yaml
