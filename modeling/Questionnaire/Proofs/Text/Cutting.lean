import Questionnaire.Text.Blank
import Questionnaire.Text.Search

/-!
Texts that are not cut, and texts that are cut where they were joined.

A text is cut at the first place where another one comes up in it, and that place depends only on what
stands up to its end: `splitAt?_append`. What has no separator in it comes up in one of the parts between
separators: `infix_append_cons`.
-/

namespace Questionnaire.Text

variable {sep : Char} {cs part rest : List Char}

theorem dropWhile_isBlank (plain : ∀ c ∈ cs, isBlank c = false) : cs.dropWhile isBlank = cs := by
  cases cs with
  | nil => rfl
  | cons c cs => exact trimLeft_of_not_blank (plain c List.mem_cons_self)

theorem trim_of_plain (plain : ∀ c ∈ cs, isBlank c = false) : trim cs = cs := by
  have backwards : ∀ c ∈ cs.reverse, isBlank c = false := by simpa using plain
  rw [trim, trimLeft, dropWhile_isBlank plain, trimRight, dropWhile_isBlank backwards,
    List.reverse_reverse]

theorem splitOnce?_append (absent : sep ∉ part) :
    splitOnce? sep (part ++ sep :: rest) = some (part, rest) := by
  induction part with
  | nil => simp [splitOnce?]
  | cons c part ih =>
    rw [List.mem_cons, not_or] at absent
    rw [List.cons_append, splitOnce?, if_neg (Ne.symm absent.1), ih absent.2]
    rfl

theorem splitOnce?_of_absent (absent : sep ∉ cs) : splitOnce? sep cs = none := by
  induction cs with
  | nil => rfl
  | cons c cs ih =>
    rw [List.mem_cons, not_or] at absent
    rw [splitOnce?, if_neg (Ne.symm absent.1), ih absent.2]
    rfl

theorem splitOnce?_eq_some : splitOnce? sep cs = some (part, rest) ↔ cs = part ++ sep :: rest ∧ sep ∉ part := by
  constructor
  · intro cut
    induction cs generalizing part with
    | nil => cases cut
    | cons c cs ih =>
      rw [splitOnce?] at cut
      split at cut
      · rename_i here
        cases cut
        simp [here]
      · rename_i other
        obtain ⟨⟨before, after⟩, later, same⟩ := Option.map_eq_some_iff.mp cut
        cases same
        obtain ⟨rfl, absent⟩ := ih later
        refine ⟨rfl, ?_⟩
        rw [List.mem_cons, not_or]
        exact ⟨Ne.symm other, absent⟩
  · rintro ⟨rfl, absent⟩
    exact splitOnce?_append absent

theorem splitOnce?_eq_none : splitOnce? sep cs = none ↔ sep ∉ cs := by
  refine ⟨fun uncut present => ?_, splitOnce?_of_absent⟩
  obtain ⟨part, rest, rfl, absent⟩ := List.eq_append_cons_of_mem present
  rw [splitOnce?_append absent] at uncut
  cases uncut

theorem splitAll_of_absent (absent : sep ∉ cs) : splitAll sep cs = [cs] := by
  induction cs with
  | nil => rfl
  | cons c cs ih =>
    rw [List.mem_cons, not_or] at absent
    rw [splitAll, if_neg (Ne.symm absent.1), ih absent.2]

theorem splitAll_append (absent : sep ∉ part) :
    splitAll sep (part ++ sep :: rest) = part :: splitAll sep rest := by
  induction part with
  | nil => rw [List.nil_append, splitAll, if_pos rfl]
  | cons c part ih =>
    rw [List.mem_cons, not_or] at absent
    rw [List.cons_append, splitAll, if_neg (Ne.symm absent.1), ih absent.2]

/-! ### First occurrences -/

variable {needle before after more : List Char}

theorem splitAt?_eq_some (cut : splitAt? needle cs = some (before, after)) :
    cs = before ++ needle ++ after := by
  induction cs generalizing before with
  | nil =>
    obtain ⟨rest, stripped, made⟩ := Option.map_eq_some_iff.mp cut
    cases made
    exact eq_append_of_strip? stripped
  | cons c cs ih =>
    unfold splitAt? at cut
    split at cut
    · rename_i stripped
      cases cut
      exact eq_append_of_strip? stripped
    · obtain ⟨⟨first, rest⟩, later, made⟩ := Option.map_eq_some_iff.mp cut
      cases made
      rw [ih later]
      rfl

theorem splitAt?_self (needle rest : List Char) :
    splitAt? needle (needle ++ rest) = some ([], rest) := by
  have stripped := strip?_append needle rest
  cases whole : needle ++ rest with
  | nil =>
    rw [whole] at stripped
    rw [splitAt?, stripped]
    rfl
  | cons c cs =>
    rw [whole] at stripped
    rw [splitAt?, stripped]

theorem strip?_append_eq_none (long : needle.length ≤ cs.length) :
    strip? needle (cs ++ more) = none ↔ strip? needle cs = none := by
  induction needle generalizing cs with
  | nil => simp [strip?]
  | cons n needle ih =>
    cases cs with
    | nil => simp at long
    | cons c cs =>
      rw [List.cons_append, strip?, strip?]
      split
      · exact ih (Nat.le_of_succ_le_succ long)
      · exact Iff.rfl

/-- Where a text comes up first does not depend on what follows it there. -/
theorem splitAt?_append (cut : splitAt? needle cs = some (before, after)) (rest : List Char) :
    splitAt? needle (before ++ needle ++ rest) = some (before, rest) := by
  induction cs generalizing before with
  | nil =>
    obtain ⟨_, _, made⟩ := Option.map_eq_some_iff.mp cut
    cases made
    exact splitAt?_self needle rest
  | cons c cs ih =>
    unfold splitAt? at cut
    split at cut
    · cases cut
      exact splitAt?_self needle rest
    · rename_i other
      obtain ⟨⟨first, later⟩, found, made⟩ := Option.map_eq_some_iff.mp cut
      cases made
      have long : needle.length ≤ (c :: (first ++ needle)).length := by
        simp only [List.length_cons, List.length_append]
        omega
      have here : strip? needle (c :: (first ++ needle)) = none := by
        rw [splitAt?_eq_some found, ← List.cons_append] at other
        exact (strip?_append_eq_none long).mp other
      have there : strip? needle (c :: (first ++ needle ++ rest)) = none := by
        rw [← List.cons_append]
        exact (strip?_append_eq_none long).mpr here
      rw [List.cons_append, List.cons_append, splitAt?, there, ih found]
      rfl

/-- A text that comes up is found, and not behind the place where it comes up. -/
theorem splitAt?_le (before needle after : List Char) :
    ∃ first rest, splitAt? needle (before ++ needle ++ after) = some (first, rest) ∧
      first.length ≤ before.length := by
  induction before with
  | nil => exact ⟨[], after, splitAt?_self needle after, Nat.le_refl 0⟩
  | cons c before ih =>
    obtain ⟨first, rest, found, early⟩ := ih
    rw [List.cons_append, List.cons_append, splitAt?]
    split
    · exact ⟨[], _, rfl, Nat.zero_le _⟩
    · exact ⟨c :: first, rest, by rw [found]; rfl, Nat.succ_le_succ early⟩

/-! ### Texts of parts -/

theorem prefix_append_cons (solid : sep ∉ needle) : needle <+: part ++ sep :: rest ↔ needle <+: part := by
  refine ⟨fun begins => ?_, fun begins => begins.trans (List.prefix_append part _)⟩
  rcases List.prefix_or_prefix_of_prefix begins (List.prefix_append part _) with shorter | ⟨more, rfl⟩
  · exact shorter
  · cases more with
    | nil => simp
    | cons c more =>
      have same := (List.cons_prefix_cons.mp ((List.prefix_append_right_inj part).mp begins)).1
      exact absurd (List.mem_append_right part (same ▸ List.mem_cons_self)) solid

/-- What has no separator in it comes up in one of the parts, or nowhere. -/
theorem infix_append_cons (solid : sep ∉ needle) :
    needle <:+: part ++ sep :: rest ↔ needle <:+: part ∨ needle <:+: rest := by
  induction part with
  | nil =>
    have nothing : needle <+: [] ++ sep :: rest ↔ needle <+: [] := prefix_append_cons solid
    rw [List.nil_append, List.prefix_nil] at nothing
    rw [List.nil_append, List.infix_cons_iff, nothing, List.infix_nil]
  | cons c part ih =>
    have begins : needle <+: c :: part ++ sep :: rest ↔ needle <+: c :: part := prefix_append_cons solid
    rw [List.cons_append] at begins
    rw [List.cons_append, List.infix_cons_iff, List.infix_cons_iff, begins, ih, or_assoc]

theorem strip?_eq_none (absent : ¬ needle <+: cs) : strip? needle cs = none :=
  Option.eq_none_iff_forall_ne_some.mpr fun _ stripped => absent ⟨_, (eq_append_of_strip? stripped).symm⟩

/-- Where a text comes up first, if it does not come up in the first part. -/
theorem splitAt?_append_cons (solid : sep ∉ needle) (absent : ¬ needle <:+: part) :
    splitAt? needle (part ++ sep :: rest) =
      (splitAt? needle rest).map fun (before, after) => (part ++ sep :: before, after) := by
  induction part with
  | nil =>
    have other : ¬ needle <+: [] ++ sep :: rest := fun begins =>
      absent ((prefix_append_cons solid).mp begins).isInfix
    rw [List.nil_append] at other ⊢
    rw [splitAt?, strip?_eq_none other]
    rfl
  | cons c part ih =>
    have other : ¬ needle <+: (c :: part) ++ sep :: rest := fun begins =>
      absent ((prefix_append_cons solid).mp begins).isInfix
    rw [List.cons_append] at other ⊢
    rw [splitAt?, strip?_eq_none other, ih fun later => absent (later.trans (List.suffix_cons c part).isInfix)]
    cases splitAt? needle rest <;> rfl

/-- If it does come up there, it is found there. -/
theorem exists_splitAt?_of_infix (present : needle <:+: part) (rest : List Char) :
    ∃ before after, splitAt? needle (part ++ rest) = some (before, after) ∧ before <+: part := by
  obtain ⟨first, last, rfl⟩ := present
  obtain ⟨before, after, found, early⟩ := splitAt?_le first needle (last ++ rest)
  rw [← List.append_assoc] at found
  have whole := splitAt?_eq_some found
  refine ⟨before, after, found, List.prefix_of_prefix_length_le ⟨needle ++ after, ?_⟩
    (List.prefix_append _ rest) ?_⟩
  · rw [whole, List.append_assoc]
  · simp only [List.length_append]
    omega

end Questionnaire.Text
