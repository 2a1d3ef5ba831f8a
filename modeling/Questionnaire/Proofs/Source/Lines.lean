import Mathlib.Data.List.TakeWhile
import Questionnaire.Proofs.Text.Slices
import Questionnaire.Source.Position

/-!
Lines and where they begin.

The offsets at which lines begin ascend, so looking for an offset among them by halves finds the last
one that is not behind it: `Slot.search_last`. Between two parts of a text that is the line in which the
first part ends: `Source.lineStarts_append`.
-/

namespace Questionnaire

open Text

/-! ### Searching by halves -/

namespace Slot

variable {numbers : Array Nat} {n low high count : Nat}

/-- Among ascending numbers, the first `count` of which are the ones that are not above `n`, a search
ends at the last of these. -/
theorem search_last
    (ascending : ∀ i j, i < j → j < high → numbers[i]?.getD 0 < numbers[j]?.getD 0)
    (below : ∀ i, i < count → numbers[i]?.getD 0 ≤ n)
    (above : ∀ i, count ≤ i → i < high → n < numbers[i]?.getD 0)
    (least : low ≤ count) (most : count ≤ high) :
    (search numbers n low high).last = count - 1 := by
  induction low, high using search.induct numbers n with
  | case1 low high room less ih =>
    have second := middle_lt room
    have smaller : numbers[middle low high]?.getD 0 < n := Nat.compare_eq_lt.mp less
    have early : middle low high < count := by
      by_contra late
      have larger := above (middle low high) (by omega) second
      omega
    rw [search, if_pos room]
    simp only [less]
    exact ih ascending above early most
  | case2 low high room same =>
    have first := le_middle low high
    have second := middle_lt room
    have equal : numbers[middle low high]?.getD 0 = n := Nat.compare_eq_eq.mp same
    have early : middle low high < count := by
      by_contra late
      have larger := above (middle low high) (by omega) second
      omega
    have final : count ≤ middle low high + 1 := by
      by_contra further
      have larger := ascending (middle low high) (middle low high + 1) (by omega) (by omega)
      have bounded := below (middle low high + 1) (by omega)
      omega
    rw [search, if_pos room]
    simp only [same]
    show middle low high = count - 1
    omega
  | case3 low high room greater ih =>
    have second := middle_lt room
    have larger : n < numbers[middle low high]?.getD 0 := Nat.compare_eq_gt.mp greater
    have late : count ≤ middle low high := by
      by_contra early
      have bounded := below (middle low high) (by omega)
      omega
    rw [search, if_pos room]
    simp only [greater]
    exact ih (fun i j order inside => ascending i j order (by omega))
      (fun i behind inside => above i behind (by omega)) least late
  | case4 low high closed =>
    rw [search, if_neg closed]
    show low - 1 = count - 1
    omega

end Slot

namespace Source

variable {offset n : Nat} {c : Char} {cs before after : List Char}

/-! ### Line starts -/

/-- The offsets at which the lines of a text begin, if the text itself begins at an offset. -/
def startsFrom (offset : Nat) (cs : List Char) : List Nat :=
  (numberLines offset (splitAll '\n' cs)).map (·.1)

theorem startsFrom_newline : startsFrom offset ('\n' :: cs) = offset :: startsFrom (offset + 1) cs := by
  unfold startsFrom
  rw [splitAll, if_pos rfl]
  rfl

theorem startsFrom_cons (solid : c ≠ '\n') :
    startsFrom offset (c :: cs) = offset :: (startsFrom (offset + c.utf8Size) cs).tail := by
  unfold startsFrom
  rw [splitAll, if_neg solid]
  cases splitAll '\n' cs with
  | nil => rfl
  | cons line lines =>
    simp only [numberLines, List.map_cons, List.tail_cons, byteLength_cons, Nat.add_assoc]

theorem startsFrom_eq_cons (offset : Nat) (cs : List Char) :
    startsFrom offset cs = offset :: (startsFrom offset cs).tail := by
  cases cs with
  | nil => rfl
  | cons c cs =>
    by_cases newline : c = '\n'
    · rw [newline, startsFrom_newline]
      rfl
    · rw [startsFrom_cons newline]
      rfl

/-- The lines of a text of two parts begin where those of the first part do, and after that where those
of the second part do. The line in which the parts meet is counted once. -/
theorem startsFrom_append : startsFrom offset (before ++ after) =
    startsFrom offset before ++ (startsFrom (offset + byteLength before) after).tail := by
  induction before generalizing offset with
  | nil => exact startsFrom_eq_cons offset after
  | cons c before ih =>
    rw [List.cons_append, byteLength_cons, ← Nat.add_assoc]
    by_cases newline : c = '\n'
    · rw [newline, startsFrom_newline, startsFrom_newline, ih]
      rfl
    · rw [startsFrom_cons newline, startsFrom_cons newline, ih,
        startsFrom_eq_cons (offset + c.utf8Size) before]
      rfl

theorem length_startsFrom : (startsFrom offset cs).length = cs.count '\n' + 1 := by
  induction cs generalizing offset with
  | nil => rfl
  | cons c cs ih =>
    by_cases newline : c = '\n'
    · rw [newline, startsFrom_newline, List.length_cons, ih, List.count_cons_self]
    · rw [startsFrom_cons newline, List.length_cons, List.length_tail, ih,
        List.count_cons_of_ne newline]
      rfl

theorem le_of_mem_startsFrom (member : n ∈ startsFrom offset cs) :
    offset ≤ n ∧ n ≤ offset + byteLength cs := by
  induction cs generalizing offset with
  | nil =>
    obtain rfl := List.mem_singleton.mp member
    exact ⟨Nat.le_refl n, Nat.le_refl n⟩
  | cons c cs ih =>
    rw [byteLength_cons]
    by_cases newline : c = '\n'
    · rw [newline, startsFrom_newline] at member
      have size : c.utf8Size = 1 := by rw [newline]; rfl
      rcases List.mem_cons.mp member with rfl | later
      · omega
      · have bounds := ih later
        omega
    · rw [startsFrom_cons newline] at member
      rcases List.mem_cons.mp member with rfl | later
      · omega
      · have bounds := ih (List.mem_of_mem_tail later)
        omega

theorem lt_of_mem_tail_startsFrom (member : n ∈ (startsFrom offset cs).tail) : offset < n := by
  induction cs generalizing offset with
  | nil => cases member
  | cons c cs ih =>
    by_cases newline : c = '\n'
    · rw [newline, startsFrom_newline] at member
      have bounds := le_of_mem_startsFrom member
      omega
    · rw [startsFrom_cons newline] at member
      have bounds := ih member
      omega

theorem startsFrom_ascending : (startsFrom offset cs).Pairwise (· < ·) := by
  induction cs generalizing offset with
  | nil => exact List.pairwise_singleton _ _
  | cons c cs ih =>
    rw [startsFrom_eq_cons]
    refine List.pairwise_cons.mpr ⟨fun n later => lt_of_mem_tail_startsFrom later, ?_⟩
    by_cases newline : c = '\n'
    · rw [newline, startsFrom_newline]
      exact ih
    · rw [startsFrom_cons newline]
      exact ih.tail

/-! ### The line of an offset -/

/-- What a text has behind its last newline. -/
def lastLine (cs : List Char) : List Char := (cs.reverse.takeWhile (· ≠ '\n')).reverse

theorem lastLine_solid (cs : List Char) : '\n' ∉ lastLine cs := by
  intro member
  have kept := List.mem_takeWhile_imp (List.mem_reverse.mp member)
  exact absurd rfl (of_decide_eq_true kept)

/-- A text is lines that are ended and its last line. -/
theorem exists_ended_lastLine (cs : List Char) :
    ∃ ended, cs = ended ++ lastLine cs ∧ (ended = [] ∨ ∃ others, ended = others ++ ['\n']) := by
  have split := List.takeWhile_append_dropWhile (p := (· ≠ '\n')) (l := cs.reverse)
  refine ⟨(cs.reverse.dropWhile (· ≠ '\n')).reverse, ?_, ?_⟩
  · rw [lastLine, ← List.reverse_append, split, List.reverse_reverse]
  · have stopped := List.head?_dropWhile_not (· ≠ '\n') cs.reverse
    cases left : cs.reverse.dropWhile (· ≠ '\n') with
    | nil => exact .inl rfl
    | cons c others =>
      rw [left] at stopped
      have newline : c = '\n' := by simpa using stopped
      exact .inr ⟨others.reverse, by rw [newline, List.reverse_cons]⟩

theorem lastLine_append (solid : '\n' ∉ after) : lastLine (before ++ after) = lastLine before ++ after := by
  have kept : ∀ c ∈ after.reverse, decide (c ≠ '\n') = true := by
    intro c member
    refine decide_eq_true fun newline => solid ?_
    rw [← newline]
    exact List.mem_reverse.mp member
  rw [lastLine, List.reverse_append, List.takeWhile_append_of_pos kept, List.reverse_append,
    List.reverse_reverse, lastLine]

/-- The last line of a text begins behind the lines that are ended. -/
theorem startsFrom_lastLine (offset : Nat) (cs : List Char) :
    (startsFrom offset cs)[cs.count '\n']?.getD 0 + byteLength (lastLine cs) =
      offset + byteLength cs := by
  obtain ⟨ended, whole, ends⟩ := exists_ended_lastLine cs
  have none_ := List.count_eq_zero.mpr (lastLine_solid cs)
  generalize lastLine cs = line at whole none_ ⊢
  subst whole
  have single : (startsFrom (offset + byteLength ended) line).tail = [] := by
    rw [← List.length_eq_zero_iff, List.length_tail, length_startsFrom, none_]
  rw [startsFrom_append, single, List.append_nil, List.count_append, none_, Nat.add_zero,
    byteLength_append]
  rcases ends with rfl | ⟨others, rfl⟩
  · rw [byteLength_nil, Nat.zero_add]
    rfl
  · have last : startsFrom offset (others ++ ['\n']) =
        startsFrom offset others ++ [offset + byteLength others + 1] := startsFrom_append
    have index : (others ++ ['\n']).count '\n' = (startsFrom offset others).length := by
      rw [List.count_append, length_startsFrom]
      rfl
    have size : byteLength (others ++ ['\n']) = byteLength others + 1 := byteLength_append _ _
    rw [last, index, List.getElem?_concat_length, size, Option.getD_some]
    omega

variable {s : Source}

theorem lineStarts_eq (whole : s.chars = before ++ after) :
    s.lineStarts = (startsFrom 0 before ++ (startsFrom (byteLength before) after).tail).toArray := by
  have parts : startsFrom 0 (before ++ after) =
      startsFrom 0 before ++ (startsFrom (0 + byteLength before) after).tail := startsFrom_append
  rw [← whole, Nat.zero_add] at parts
  exact congrArg List.toArray parts

/-- The search for an offset between two parts of a text ends at the line in which the first one
ends. -/
theorem search_lineStarts (whole : s.chars = before ++ after) :
    (Slot.search s.lineStarts (byteLength before) 0 s.lineStarts.size).last = before.count '\n' := by
  have ascending : (startsFrom 0 s.chars).Pairwise (· < ·) := startsFrom_ascending
  rw [whole, startsFrom_append, Nat.zero_add] at ascending
  have count : before.count '\n' = (startsFrom 0 before).length - 1 := by
    rw [length_startsFrom]
    rfl
  rw [lineStarts_eq whole, count]
  generalize first : startsFrom 0 before = firsts at ascending ⊢
  generalize second : (startsFrom (byteLength before) after).tail = others at ascending ⊢
  have early (n : Nat) (member : n ∈ firsts) : n ≤ byteLength before := by
    rw [← first] at member
    simpa only [Nat.zero_add] using (le_of_mem_startsFrom member).2
  have late (n : Nat) (member : n ∈ others) : byteLength before < n := by
    rw [← second] at member
    exact lt_of_mem_tail_startsFrom member
  have entry (i : Nat) (inside : i < (firsts ++ others).length) :
      (firsts ++ others).toArray[i]?.getD 0 = (firsts ++ others)[i] := by
    rw [List.getElem?_toArray, List.getElem?_eq_getElem inside, Option.getD_some]
  have longer : firsts.length ≤ (firsts ++ others).length := by
    rw [List.length_append]
    exact Nat.le_add_right _ _
  apply Slot.search_last
  · intro i j order inside
    rw [List.size_toArray] at inside
    rw [entry i (order.trans inside), entry j inside]
    exact List.pairwise_iff_getElem.mp ascending i j (order.trans inside) inside order
  · intro i inside
    rw [entry i (by omega), List.getElem_append_left inside]
    exact early _ (List.getElem_mem inside)
  · intro i behind inside
    rw [List.size_toArray] at inside
    rw [entry i inside, List.getElem_append_right behind]
    exact late _ (List.getElem_mem _)
  · exact Nat.zero_le _
  · rw [List.size_toArray]
    exact longer

/-- That line begins where the last line of the first part does. -/
theorem lineStarts_lastLine (whole : s.chars = before ++ after) :
    s.lineStarts[before.count '\n']?.getD 0 + byteLength (lastLine before) = byteLength before := by
  have inside : before.count '\n' < (startsFrom 0 before).length := by
    rw [length_startsFrom]
    exact Nat.lt_succ_self _
  have start := startsFrom_lastLine 0 before
  rw [lineStarts_eq whole, List.getElem?_toArray, List.getElem?_append_left inside, start, Nat.zero_add]

end Source

end Questionnaire
