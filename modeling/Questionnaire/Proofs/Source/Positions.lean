import Questionnaire.Proofs.Source.Lines
import Questionnaire.Proofs.Text.Cutting

/-!
Offsets of positions.

The position of an offset has that offset, or the end of the text if the offset is behind it. So every
range that is made of a text lies inside it, and the range of a part of what was found in the text shows
just that part: `Source.slice?_range`.
-/

namespace Questionnaire

open Text

/-- A position on an earlier line, or in an earlier column of the line. -/
def Position.Before (p q : Position) : Prop :=
  p.line < q.line ∨ p.line = q.line ∧ p.column < q.column

theorem Position.not_before {p q : Position} (line : p.line = q.line) (column : p.column = q.column) :
    ¬p.Before q := by
  unfold Before
  omega

def Range.span (r : Range) : Span := ⟨r.start.index, r.finish.index⟩

def Range.Inside (r : Range) (size : Nat) : Prop :=
  r.start.index ≤ r.finish.index ∧ r.finish.index ≤ size

namespace Source

variable {s : Source} {offset place start : Nat} {needle : String}

theorem position_index (s : Source) (offset : Nat) : (s.position offset).index = min offset s.size := rfl

/-- The position between two parts of a text counts the newlines of the first part and the characters
of its last line. -/
theorem position_between {before after : List Char} (whole : s.chars = before ++ after) :
    s.position (byteLength before) =
      ⟨before.count '\n' + 1, (lastLine before).length + 1, byteLength before⟩ := by
  obtain ⟨ended, cut, -⟩ := exists_ended_lastLine before
  have sizes : byteLength before = byteLength ended + byteLength (lastLine before) :=
    (congrArg byteLength cut).trans (byteLength_append _ _)
  have start : s.lineStarts[before.count '\n']?.getD 0 = byteLength ended := by
    have behind := lineStarts_lastLine whole
    omega
  have inside : min (byteLength before) s.size = byteLength before := by
    have size : s.size = byteLength before + byteLength after := by
      rw [size, whole, byteLength_append]
    omega
  have dropped : dropBytes? (byteLength ended) s.chars = some (lastLine before ++ after) := by
    rw [whole, cut, List.append_assoc, ← cut]
    exact dropBytes?_append ended _
  have taken : takeBytes? (byteLength before - byteLength ended) (lastLine before ++ after) =
      some (lastLine before) := by
    rw [sizes, Nat.add_sub_cancel_left]
    exact takeBytes?_append _ after
  simp only [position, inside, search_lineStarts whole, start, dropped, Option.bind_some, taken,
    Option.map_some, Option.getD_some]

theorem position_line {before rest : List Char} (whole : s.chars = before ++ rest) :
    (s.position (byteLength before)).line = before.count '\n' + 1 := by
  rw [position_between whole]

/-- Between two offsets lie characters: either a newline is among them, or the last line grows. -/
theorem position_before {a b : Nat} (first : IsBoundary s.chars a) (second : IsBoundary s.chars b)
    (order : a < b) : (s.position a).Before (s.position b) := by
  obtain ⟨before, after, whole, rfl⟩ := first
  obtain ⟨longer, rest, same, rfl⟩ := second
  obtain ⟨between, rfl⟩ : ∃ between, longer = before ++ between := by
    rcases List.prefix_or_prefix_of_prefix ⟨after, whole.symm⟩ ⟨rest, same.symm⟩ with
      ⟨between, more⟩ | ⟨between, rfl⟩
    · exact ⟨between, more.symm⟩
    · rw [byteLength_append] at order
      omega
  rw [position_between whole, position_between same]
  by_cases solid : '\n' ∈ between
  · have counted : 0 < between.count '\n' := List.count_pos_iff.mpr solid
    refine .inl ?_
    show before.count '\n' + 1 < (before ++ between).count '\n' + 1
    rw [List.count_append]
    omega
  · have none_ : between.count '\n' = 0 := List.count_eq_zero.mpr solid
    have filled : 0 < between.length := by
      refine List.length_pos_iff.mpr fun nothing => ?_
      rw [nothing, List.append_nil] at order
      exact Nat.lt_irrefl _ order
    refine .inr ⟨?_, ?_⟩
    · show before.count '\n' + 1 = (before ++ between).count '\n' + 1
      rw [List.count_append, none_, Nat.add_zero]
    · show (lastLine before).length + 1 < (lastLine (before ++ between)).length + 1
      rw [lastLine_append solid, List.length_append]
      omega

/-- Positions agree with counting and keep the order of offsets: the line counts the newlines before an
offset and the column the characters since the last of them. So a line and a column belong to one
offset at most. -/
theorem positions_count (s : Source) :
    (∀ before after, s.chars = before ++ after → s.position (byteLength before) =
      ⟨1 + before.count '\n', 1 + (before.reverse.takeWhile (· ≠ '\n')).length, byteLength before⟩) ∧
    (∀ a b, IsBoundary s.chars a → IsBoundary s.chars b → a < b →
      (s.position a).Before (s.position b)) ∧
    ∀ a b, IsBoundary s.chars a → IsBoundary s.chars b →
      (s.position a).line = (s.position b).line → (s.position a).column = (s.position b).column →
      a = b := by
  refine ⟨?_, fun a b first second order => position_before first second order, ?_⟩
  · intro before after whole
    rw [position_between whole, lastLine, List.length_reverse, Nat.add_comm 1, Nat.add_comm 1]
  · intro a b first second line column
    rcases Nat.lt_trichotomy a b with order | same | order
    · exact absurd (position_before first second order) (Position.not_before line column)
    · exact same
    · exact absurd (position_before second first order) (Position.not_before line.symm column.symm)

def accentedText : Source := ofText "één\n\né\n"

/-- Characters of two bytes, an empty line, and the line behind the last newline. -/
theorem positions_count_accented :
    accentedText.position 4 = ⟨1, 3, 4⟩ ∧ accentedText.position 6 = ⟨2, 1, 6⟩ ∧
      accentedText.position 10 = ⟨4, 1, 10⟩ ∧
      (accentedText.position 6).Before (accentedText.position 10) := by
  obtain ⟨counts, ordered, -⟩ := positions_count accentedText
  have empty : IsBoundary accentedText.chars 6 := ⟨['é', 'é', 'n', '\n'], ['\n', 'é', '\n'], rfl, rfl⟩
  have last : IsBoundary accentedText.chars 10 := isBoundary_length accentedText.chars
  exact ⟨counts ['é', 'é'] ['n', '\n', '\n', 'é', '\n'] rfl,
    counts ['é', 'é', 'n', '\n'] ['\n', 'é', '\n'] rfl,
    counts ['é', 'é', 'n', '\n', '\n', 'é', '\n'] [] rfl, ordered 6 10 empty last (by decide)⟩

theorem range_inside (s : Source) (offset length : Nat) : (s.range offset length).Inside s.size := by
  simp only [Range.Inside, range, position_index]
  omega

theorem le_lineEnd (bounded : offset ≤ s.size) : offset ≤ s.lineEnd offset := by
  unfold lineEnd
  split
  · exact Nat.le_add_right _ _
  · exact bounded

theorem lineRange_inside (s : Source) (offset : Nat) : (s.lineRange offset).Inside s.size := by
  have later : min offset s.size ≤ s.lineEnd (min offset s.size) := le_lineEnd (Nat.min_le_right _ _)
  simp only [Range.Inside, lineRange, position_index]
  omega

theorem find?_eq_some (found : s.find? needle start = some place) :
    ∃ before after, s.chars = before ++ needle.toList ++ after ∧ byteLength before = place := by
  unfold find? at found
  obtain ⟨rest, dropped, found⟩ := Option.bind_eq_some_iff.mp found
  obtain ⟨⟨passed, after⟩, cut, found⟩ := Option.bind_eq_some_iff.mp found
  obtain ⟨before, whole, begins⟩ := dropBytes?_eq_some.mp dropped
  refine ⟨before ++ passed, after, ?_, ?_⟩
  · rw [whole, splitAt?_eq_some cut]
    simp only [List.append_assoc]
  · rw [byteLength_append, begins]
    exact Option.some.inj found

/-- A search from the end of the first part on is a search of the second part. -/
theorem find?_between {before rest : List Char} (whole : s.chars = before ++ rest) :
    s.find? needle (byteLength before) =
      (splitAt? needle.toList rest).map fun cut => byteLength (before ++ cut.1) := by
  have inside : min (byteLength before) s.size = byteLength before := by
    rw [size, whole, byteLength_append]
    omega
  have dropped : dropBytes? (byteLength before) s.chars = some rest := by
    rw [whole]
    exact dropBytes?_append before rest
  unfold find?
  simp only [inside, dropped, Option.bind_eq_bind, Option.bind_some, byteLength_append]
  cases splitAt? needle.toList rest <;> rfl

theorem map_snd_numberLines (offset : Nat) (lines : List (List Char)) :
    (numberLines offset lines).map (·.2) = lines := by
  induction lines generalizing offset with
  | nil => rfl
  | cons line lines ih => exact congrArg (line :: ·) (ih _)

/-- An entry whose key begins no line is not found. -/
theorem locate?_eq_none {key value : String}
    (absent : ∀ line ∈ splitAll '\n' s.chars, strip? (key.toList ++ [':']) (skipDashes line) = none) :
    s.locate? key value start = none := by
  unfold locate?
  refine List.findSome?_eq_none_iff.mpr fun (offset, line) member => ?_
  have listed : line ∈ splitAll '\n' s.chars := by
    have numbered := List.mem_map_of_mem (f := Prod.snd) (List.mem_of_mem_filter member)
    rwa [lines, map_snd_numberLines] at numbered
  simp only [absent line listed]
  rfl

/-- Where a text was found, the range of a part of it shows that part. -/
theorem slice?_range {part : Span} {shown : List Char} (found : s.find? needle start = some place)
    (cut : part.slice? needle.toList = some shown) :
    (s.range (place + part.start) (part.stop - part.start)).span.slice? s.chars = some shown := by
  obtain ⟨before, after, whole, begins⟩ := find?_eq_some found
  have fits := Span.fits_iff.mpr ⟨shown, cut⟩
  have size : s.size = place + byteLength needle.toList + byteLength after := by
    rw [Source.size, whole, byteLength_append, byteLength_append, begins]
  have ordered := fits.ordered
  have inside := fits.stop_le
  have bytes : (s.range (place + part.start) (part.stop - part.start)).span =
      ⟨place + part.start, place + part.stop⟩ := by
    simp only [Range.span, range, position_index, Span.mk.injEq]
    omega
  rw [bytes, ← begins, whole]
  exact Span.slice?_append cut

end Source

end Questionnaire
