import Mathlib.Data.List.Infix
import Questionnaire.Source.Span
import Questionnaire.Text.Search

/-!
Slices of a text by offsets in bytes.

A span fits a text if it is in order and both its ends fall between characters. Then it cuts a part out
of the text, and no other: `Span.slice?_eq_some`. Spans that fit can be joined: `Span.Fits.join`.
-/

namespace Questionnaire

namespace Text

variable {n : Nat} {cs part rest : List Char}

theorem byteLength_eq_zero : byteLength cs = 0 ↔ cs = [] := by
  cases cs with
  | nil => simp
  | cons c cs =>
    have positive := c.utf8Size_pos
    simp
    omega

theorem byteLength_toList (s : String) : byteLength s.toList = s.utf8ByteSize := by
  have encoded (cs : List Char) : (String.ofList cs).utf8ByteSize = byteLength cs := by
    induction cs with
    | nil => rfl
    | cons c cs ih =>
      rw [String.ofList_cons, String.utf8ByteSize_append, String.utf8ByteSize_singleton, ih,
        byteLength_cons]
  have whole := encoded s.toList
  rw [String.ofList_toList] at whole
  exact whole.symm

/-- The bytes of a text that is not empty are those of its first character and those of the others. -/
theorem exists_byteLength_cons (c : Char) (cs : List Char) :
    ∃ n, byteLength (c :: cs) = n + 1 ∧ c.utf8Size ≤ n + 1 ∧ n + 1 - c.utf8Size = byteLength cs := by
  have positive := c.utf8Size_pos
  have size := byteLength_cons c cs
  refine ⟨byteLength (c :: cs) - 1, ?_, ?_, ?_⟩ <;> omega

theorem dropBytes?_append (before after : List Char) :
    dropBytes? (byteLength before) (before ++ after) = some after := by
  induction before with
  | nil => simp [dropBytes?]
  | cons c before ih =>
    obtain ⟨n, size, fits, left⟩ := exists_byteLength_cons c before
    rw [size, List.cons_append, dropBytes?, if_pos fits, left, ih]

theorem takeBytes?_append (part rest : List Char) :
    takeBytes? (byteLength part) (part ++ rest) = some part := by
  induction part with
  | nil => simp [takeBytes?]
  | cons c part ih =>
    obtain ⟨n, size, fits, left⟩ := exists_byteLength_cons c part
    rw [size, List.cons_append, takeBytes?, if_pos fits, left, ih]
    rfl

/-- What is left after some bytes are dropped is an end of the text. -/
theorem dropBytes?_eq_some :
    dropBytes? n cs = some rest ↔ ∃ before, cs = before ++ rest ∧ byteLength before = n := by
  constructor
  · intro dropped
    fun_induction dropBytes? n cs with
    | case1 cs =>
      cases dropped
      exact ⟨[], rfl, rfl⟩
    | case2 => cases dropped
    | case3 n c cs fits ih =>
      obtain ⟨before, rfl, size⟩ := ih dropped
      refine ⟨c :: before, rfl, ?_⟩
      rw [byteLength_cons, size]
      omega
    | case4 => cases dropped
  · rintro ⟨before, rfl, rfl⟩
    exact dropBytes?_append before rest

theorem takeBytes?_eq_some :
    takeBytes? n cs = some part ↔ ∃ rest, cs = part ++ rest ∧ byteLength part = n := by
  constructor
  · intro taken
    fun_induction takeBytes? n cs generalizing part with
    | case1 cs =>
      cases taken
      exact ⟨cs, rfl, rfl⟩
    | case2 => cases taken
    | case3 n c cs fits ih =>
      obtain ⟨first, read, rfl⟩ := Option.map_eq_some_iff.mp taken
      obtain ⟨rest, rfl, size⟩ := ih read
      refine ⟨rest, rfl, ?_⟩
      rw [byteLength_cons, size]
      omega
    | case4 => cases taken
  · rintro ⟨rest, rfl, rfl⟩
    exact takeBytes?_append part rest

/-- An offset that falls between two characters of a text, or at one of its ends. -/
def IsBoundary (cs : List Char) (n : Nat) : Prop :=
  ∃ before after, cs = before ++ after ∧ byteLength before = n

theorem isBoundary_zero (cs : List Char) : IsBoundary cs 0 := ⟨[], cs, rfl, rfl⟩

theorem isBoundary_length (cs : List Char) : IsBoundary cs (byteLength cs) :=
  ⟨cs, [], (List.append_nil cs).symm, rfl⟩

theorem IsBoundary.le (boundary : IsBoundary cs n) : n ≤ byteLength cs := by
  obtain ⟨before, after, rfl, rfl⟩ := boundary
  rw [byteLength_append]
  exact Nat.le_add_right _ _

end Text

open Text

namespace Span

variable {cs part before after : List Char} {s t : Span}

/-- The part of a text that a span cuts out. -/
def slice? (s : Span) (cs : List Char) : Option (List Char) :=
  if s.start ≤ s.stop then (dropBytes? s.start cs).bind (takeBytes? (s.stop - s.start)) else none

/-- A span that is in order and whose ends fall between characters of the text. -/
structure Fits (cs : List Char) (s : Span) : Prop where
  ordered : s.start ≤ s.stop
  start : IsBoundary cs s.start
  stop : IsBoundary cs s.stop

theorem slice?_eq_some : s.slice? cs = some part ↔
    ∃ before after, cs = before ++ part ++ after ∧ byteLength before = s.start ∧
      byteLength (before ++ part) = s.stop := by
  unfold slice?
  constructor
  · intro cut
    split at cut
    · rename_i ordered
      obtain ⟨rest, dropped, taken⟩ := Option.bind_eq_some_iff.mp cut
      obtain ⟨before, rfl, begins⟩ := dropBytes?_eq_some.mp dropped
      obtain ⟨after, rfl, size⟩ := takeBytes?_eq_some.mp taken
      refine ⟨before, after, (List.append_assoc _ _ _).symm, begins, ?_⟩
      rw [byteLength_append, begins, size]
      omega
    · cases cut
  · rintro ⟨before, after, rfl, begins, ends⟩
    rw [byteLength_append] at ends
    have ordered : s.start ≤ s.stop := by omega
    have dropped : dropBytes? s.start (before ++ part ++ after) = some (part ++ after) :=
      dropBytes?_eq_some.mpr ⟨before, List.append_assoc _ _ _, begins⟩
    have taken : takeBytes? (s.stop - s.start) (part ++ after) = some part :=
      takeBytes?_eq_some.mpr ⟨after, rfl, by omega⟩
    rw [if_pos ordered, dropped, Option.bind_some, taken]

/-- A span fits just if it cuts something out. -/
theorem fits_iff : s.Fits cs ↔ ∃ part, s.slice? cs = some part := by
  constructor
  · rintro ⟨ordered, ⟨before, rest, rfl, begins⟩, ⟨whole, after, same, ends⟩⟩
    have longer : before <+: whole := by
      rcases List.prefix_or_prefix_of_prefix ⟨rest, rfl⟩ ⟨after, same.symm⟩ with shorter | ⟨more, rfl⟩
      · exact shorter
      · -- Nothing is between the two cuts, as the first of them is not behind the second.
        rw [byteLength_append] at begins
        have nothing : more = [] := byteLength_eq_zero.mp (by omega)
        rw [nothing, List.append_nil]
    obtain ⟨part, rfl⟩ := longer
    exact ⟨part, slice?_eq_some.mpr ⟨before, after, same, begins, ends⟩⟩
  · rintro ⟨part, cut⟩
    obtain ⟨before, after, rfl, begins, ends⟩ := slice?_eq_some.mp cut
    refine ⟨?_, ⟨before, part ++ after, List.append_assoc _ _ _, begins⟩,
      ⟨before ++ part, after, rfl, ends⟩⟩
    rw [byteLength_append] at ends
    omega

theorem Fits.stop_le (fits : s.Fits cs) : s.stop ≤ byteLength cs := fits.stop.le

theorem Fits.join (first : s.Fits cs) (second : t.Fits cs) : (s.join t).Fits cs where
  ordered := by
    have one := first.ordered
    have two := second.ordered
    simp only [Span.join]
    omega
  start := by
    rcases Nat.le_total s.start t.start with before | before
    · simpa only [Span.join, Nat.min_eq_left before] using first.start
    · simpa only [Span.join, Nat.min_eq_right before] using second.start
  stop := by
    rcases Nat.le_total s.stop t.stop with before | before
    · simpa only [Span.join, Nat.max_eq_right before] using second.stop
    · simpa only [Span.join, Nat.max_eq_left before] using first.stop

theorem fits_nothing (cs : List Char) : (⟨0, 0⟩ : Span).Fits cs :=
  ⟨Nat.le_refl 0, isBoundary_zero cs, isBoundary_zero cs⟩

theorem slice?_whole (cs : List Char) : (⟨0, byteLength cs⟩ : Span).slice? cs = some cs :=
  slice?_eq_some.mpr ⟨[], [], (List.append_nil cs).symm, rfl, rfl⟩

/-- What a span cuts out of a part of a text, the span moved to that part cuts out of the text. -/
theorem slice?_append {inner : List Char} (cut : s.slice? part = some inner) :
    (⟨byteLength before + s.start, byteLength before + s.stop⟩ : Span).slice? (before ++ part ++ after) =
      some inner := by
  obtain ⟨left, right, rfl, begins, ends⟩ := slice?_eq_some.mp cut
  refine slice?_eq_some.mpr ⟨before ++ left, right ++ after, ?_, ?_, ?_⟩
  · simp only [List.append_assoc]
  · rw [byteLength_append, begins]
  · rw [List.append_assoc, byteLength_append, ends]

end Span

end Questionnaire
