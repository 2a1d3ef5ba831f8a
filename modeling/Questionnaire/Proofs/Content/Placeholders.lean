import Mathlib.Data.List.TakeWhile
import Questionnaire.Content.Template
import Questionnaire.Proofs.Expression.Reads
import Questionnaire.Proofs.Text.Cutting

/-!
Placeholders before and after values are put in.

A value that is put in never makes double braces with what stands around it: what is plain text before
a placeholder does not end in an opening brace, as the braces would have been found earlier then. So the
placeholders of the rendered text are those without a value, in their order: `Segment.Cuts.filled`.
-/

namespace Questionnaire

open Text

namespace Segment

variable {cs before after inside lead rest : List Char} {segments others : List Segment} {values : Inserts}

/-! ### Cutting a text -/

/-- Double braces around a text. They make a placeholder unless the text is blank. -/
def braced (inside : List Char) : Segment :=
  if (trim inside).isEmpty then plain (opening ++ inside ++ closing) else placeholder inside

/-- The text falls into the segments. -/
inductive Cuts : List Char → List Segment → Prop
  | unopened {cs : List Char} (unopened : splitAt? opening cs = none) : Cuts cs [plain cs]
  | unclosed {cs before after : List Char} (opened : splitAt? opening cs = some (before, after))
      (unclosed : splitAt? closing after = none) : Cuts cs [plain cs]
  | closed {cs before after inside rest : List Char} {segments : List Segment}
      (opened : splitAt? opening cs = some (before, after))
      (closed : splitAt? closing after = some (inside, rest)) (more : Cuts rest segments) :
      Cuts cs (plain before :: braced inside :: segments)

theorem eq_of_closed (opened : splitAt? opening cs = some (before, after))
    (closed : splitAt? closing after = some (inside, rest)) :
    cs = before ++ (opening ++ inside ++ closing) ++ rest := by
  rw [splitAt?_eq_some opened, splitAt?_eq_some closed]
  simp only [List.append_assoc]

theorem cuts_cut {fuel : Nat} (enough : cs.length ≤ fuel) : Cuts cs (cut fuel cs) := by
  induction fuel generalizing cs with
  | zero =>
    obtain rfl := List.eq_nil_of_length_eq_zero (Nat.le_zero.mp enough)
    exact .unopened rfl
  | succ fuel ih =>
    unfold cut
    split
    · exact .unopened ‹_›
    · rename_i before after opened
      split
      · exact .unclosed opened ‹_›
      · rename_i inside rest closed
        have shorter : rest.length ≤ fuel := by
          rw [eq_of_closed opened closed] at enough
          simp only [List.length_append] at enough
          have braces : opening.length = 2 := rfl
          omega
        exact .closed opened closed (ih shorter)

theorem cuts_ofChars (cs : List Char) : Cuts cs (ofChars cs) := cuts_cut (Nat.le_refl _)

theorem Cuts.unique (cuts : Cuts cs segments) (also : Cuts cs others) : segments = others := by
  induction cuts generalizing others with
  | unopened unopened =>
    cases also with
    | unopened | unclosed => rfl
    | closed opened => simp [unopened] at opened
  | unclosed opened unclosed =>
    cases also with
    | unopened | unclosed => rfl
    | closed opened' closed =>
      obtain ⟨rfl, rfl⟩ := Prod.mk.inj (Option.some.inj (opened.symm.trans opened'))
      simp [unclosed] at closed
  | closed opened closed more ih =>
    cases also with
    | unopened unopened => simp [unopened] at opened
    | unclosed opened' unclosed =>
      obtain ⟨rfl, rfl⟩ := Prod.mk.inj (Option.some.inj (opened.symm.trans opened'))
      simp [unclosed] at closed
    | closed opened' closed' more' =>
      obtain ⟨rfl, rfl⟩ := Prod.mk.inj (Option.some.inj (opened.symm.trans opened'))
      obtain ⟨rfl, rfl⟩ := Prod.mk.inj (Option.some.inj (closed.symm.trans closed'))
      rw [ih more']

theorem Cuts.eq_ofChars (cuts : Cuts cs segments) : ofChars cs = segments :=
  (cuts_ofChars cs).unique cuts

theorem written_braced (inside : List Char) : (braced inside).written = opening ++ inside ++ closing := by
  unfold braced
  split <;> rfl

theorem Cuts.written (cuts : Cuts cs segments) : segments.flatMap Segment.written = cs := by
  induction cuts with
  | unopened | unclosed => exact List.flatMap_singleton _ _
  | closed opened closed _ ih =>
    rw [List.flatMap_cons, List.flatMap_cons, written_braced, ih, eq_of_closed opened closed,
      ← List.append_assoc]
    rfl

/-! ### Texts that open no braces -/

/-- A text in which no double braces open, whatever follows it. -/
def Clear (lead : List Char) : Prop :=
  ∀ cs, splitAt? opening (lead ++ cs) = (splitAt? opening cs).map fun cut => (lead ++ cut.1, cut.2)

theorem clear_append (first : Clear lead) (second : Clear before) : Clear (lead ++ before) := by
  intro cs
  rw [List.append_assoc, first, second, Option.map_map]
  exact congrArg (Option.map · _) (funext fun cut => by simp)

theorem clear_of_absent (absent : '\x7b' ∉ lead) : Clear lead := by
  induction lead with
  | nil => exact fun cs => Option.map_id'.symm
  | cons c lead ih =>
    rw [List.mem_cons, not_or] at absent
    intro cs
    have here : strip? opening (c :: (lead ++ cs)) = none := by simp [opening, strip?, absent.1]
    rw [List.cons_append, splitAt?, here, ih absent.2, Option.map_map]
    rfl

/-- What stands before the first double braces does not end in one of them. -/
theorem clear_of_opened (opened : splitAt? opening cs = some (before, after)) : Clear before := by
  induction cs generalizing before with
  | nil => cases opened
  | cons c cs ih =>
    unfold splitAt? at opened
    split at opened
    · cases opened
      exact clear_of_absent List.not_mem_nil
    · rename_i other
      obtain ⟨⟨first, later⟩, found, made⟩ := Option.map_eq_some_iff.mp opened
      cases made
      intro more
      have here : strip? opening (c :: (first ++ more)) = none := by
        rw [splitAt?_eq_some found] at other
        cases first with
        | nil =>
          have apart : c ≠ '\x7b' := by
            rintro rfl
            cases other
          simp [opening, strip?, Ne.symm apart]
        | cons d first => simpa [opening, strip?] using other
      rw [List.cons_append, splitAt?, here, ih found, Option.map_map]
      rfl

/-- What is put in front of a text without opening braces adds to its first segment only. -/
theorem Cuts.prepend (clear : Clear lead) (cuts : Cuts cs segments) :
    ∃ others, Cuts (lead ++ cs) others ∧ others.filterMap name? = segments.filterMap name? := by
  cases cuts with
  | unopened unopened => exact ⟨_, .unopened (by rw [clear, unopened]; rfl), rfl⟩
  | @unclosed _ before after opened unclosed =>
    have later : splitAt? opening (lead ++ cs) = some (lead ++ before, after) := by
      rw [clear, opened]
      rfl
    exact ⟨_, .unclosed later unclosed, rfl⟩
  | @closed _ before after _ _ _ opened closed more =>
    have later : splitAt? opening (lead ++ cs) = some (lead ++ before, after) := by
      rw [clear, opened]
      rfl
    exact ⟨_, .closed later closed more, rfl⟩

/-! ### Putting values in -/

/-- None of the values has an opening brace in its text. -/
def Unbraced (values : Inserts) : Prop := ∀ entry ∈ values, '\x7b' ∉ entry.2.toText.toList

theorem Unbraced.clear {name : String} {value : Insert} (unbraced : Unbraced values)
    (found : values.get? name = some value) : Clear value.toText.toList := by
  obtain ⟨entry, listed, rfl⟩ := Option.map_eq_some_iff.mp found
  exact clear_of_absent (unbraced entry (List.mem_of_find?_eq_some listed))

theorem Cuts.filled (unbraced : Unbraced values) (cuts : Cuts cs segments) :
    ∃ others, Cuts (segments.flatMap (fill values)) others ∧
      others.filterMap name? =
        (segments.filterMap name?).filter fun name => (values.get? name).isNone := by
  induction cuts with
  | unopened unopened => exact ⟨_, by simpa [fill] using Cuts.unopened unopened, rfl⟩
  | unclosed opened unclosed => exact ⟨_, by simpa [fill] using Cuts.unclosed opened unclosed, rfl⟩
  | @closed cs before after inside rest segments opened closed more ih =>
    obtain ⟨others, cuts, named⟩ := ih
    have kept : Cuts (before ++ (opening ++ inside ++ closing ++ segments.flatMap (fill values)))
        (plain before :: braced inside :: others) := by
      have cut := splitAt?_append opened (inside ++ closing ++ segments.flatMap (fill values))
      have unclosed := splitAt?_append closed (segments.flatMap (fill values))
      simp only [List.append_assoc] at cut unclosed ⊢
      exact .closed cut unclosed cuts
    unfold braced at kept ⊢
    by_cases blank : (trim inside).isEmpty = true
    · rw [if_pos blank] at kept ⊢
      exact ⟨_, kept, named⟩
    · rw [if_neg blank] at kept ⊢
      cases found : values.get? (nameOf inside) with
      | none =>
        refine ⟨_, by simpa [fill, found, Segment.written] using kept, ?_⟩
        simpa [List.filterMap_cons, name?, found] using named
      | some value =>
        -- The value joins the text in front of the braces and the first segment behind them.
        have clear := clear_append (clear_of_opened opened) (unbraced.clear found)
        obtain ⟨joined, cuts, same⟩ := cuts.prepend clear
        refine ⟨joined, by simpa [fill, found] using cuts, ?_⟩
        rw [same, named]
        simp [List.filterMap_cons, name?, found]

/-- Where no placeholder has a value, the text stays as it is. -/
theorem Cuts.fill_unknown (cuts : Cuts cs segments)
    (unknown : ∀ name ∈ segments.filterMap name?, values.get? name = none) :
    segments.flatMap (fill values) = cs := by
  rw [← cuts.written]
  refine List.flatMap_congr fun segment member => ?_
  cases segment with
  | plain => rfl
  | placeholder inside =>
    have missing := unknown (nameOf inside) (List.mem_filterMap.mpr ⟨_, member, rfl⟩)
    simp only [fill, missing]

/-! ### Braces anywhere in a text -/

/-- Somewhere in the text stand double braces that enclose what is not blank. The first closing braces
behind the opening ones belong to them. -/
def Encloses (cs inside : List Char) : Prop :=
  ∃ before after rest, cs = before ++ opening ++ after ∧
    splitAt? closing after = some (inside, rest) ∧ trim inside ≠ []

theorem isBlank_of_trim (blank : trim cs = []) : ∀ c ∈ cs, isBlank c = true := by
  rw [trim, trimRight, List.reverse_eq_nil_iff, List.dropWhile_eq_nil_iff] at blank
  intro c member
  rw [← List.takeWhile_append_dropWhile (p := isBlank) (l := cs), List.mem_append] at member
  rcases member with leading | later
  · exact List.mem_takeWhile_imp leading
  · exact blank c (List.mem_reverse.mpr later)

theorem Clear.encloses (clear : Clear lead) (encloses : Encloses (lead ++ cs) inside) :
    Encloses cs inside := by
  obtain ⟨before, after, rest, whole, closed, filled⟩ := encloses
  obtain ⟨first, behind, found, early⟩ := splitAt?_le before opening after
  rw [← whole, clear] at found
  obtain ⟨⟨passed, _⟩, _, made⟩ := Option.map_eq_some_iff.mp found
  cases made
  have long : lead.length ≤ before.length := by
    rw [List.length_append] at early
    omega
  rw [List.append_assoc] at whole
  obtain ⟨others, rfl⟩ := List.prefix_of_prefix_length_le ⟨cs, rfl⟩ ⟨opening ++ after, whole.symm⟩ long
  rw [List.append_assoc] at whole
  exact ⟨others, after, rest, by rw [List.append_cancel_left whole, List.append_assoc], closed, filled⟩

theorem Encloses.behind (encloses : Encloses cs inside) (lead : List Char) :
    Encloses (lead ++ cs) inside := by
  obtain ⟨before, after, rest, rfl, closed, filled⟩ := encloses
  exact ⟨lead ++ before, after, rest, by simp only [List.append_assoc], closed, filled⟩

theorem not_mem_closed (blank : trim inside = []) : '\x7b' ∉ inside ++ closing := by
  intro brace
  rcases List.mem_append.mp brace with within | last
  · exact absurd (isBlank_of_trim blank _ within) (by decide)
  · exact absurd last (by decide)

/-- Behind braces around nothing but blanks the text begins anew. -/
theorem Encloses.of_blank {x : List Char} (blank : trim inside = [])
    (closed : splitAt? closing after = some (inside, rest)) (encloses : Encloses (opening ++ after) x) :
    Encloses rest x := by
  obtain ⟨first, behind, last, whole, found, filled⟩ := encloses
  have absent := not_mem_closed blank
  have split := splitAt?_eq_some closed
  cases first with
  | nil =>
    obtain rfl := List.append_cancel_left whole
    rw [closed] at found
    cases found
    exact absurd blank filled
  | cons c first =>
    cases first with
    | nil =>
      -- The first character behind the opening braces would be one more of them.
      have brace : after = '\x7b' :: behind := (List.cons.inj (List.cons.inj whole).2).2
      rw [brace] at split
      obtain ⟨d, more, ends⟩ : ∃ d more, inside ++ closing = d :: more :=
        List.exists_cons_of_ne_nil (by simp [closing])
      rw [ends, List.cons_append] at split
      obtain rfl := (List.cons.inj split).1
      exact absurd (ends ▸ List.mem_cons_self) absent
    | cons d first =>
      have later : after = first ++ opening ++ behind := (List.cons.inj (List.cons.inj whole).2).2
      exact (clear_of_absent absent).encloses ⟨first, behind, last, by rw [← split, later], found, filled⟩

/-- Braces that enclose something are found, wherever they stand. -/
theorem Cuts.encloses_iff (cuts : Cuts cs segments) :
    (∃ inside, Encloses cs inside) ↔ segments.filterMap name? ≠ [] := by
  induction cuts with
  | unopened unopened =>
    refine iff_of_false ?_ (by simp [name?])
    rintro ⟨inside, before, after, rest, rfl, -, -⟩
    obtain ⟨_, _, found, -⟩ := splitAt?_le before opening after
    rw [unopened] at found
    cases found
  | @unclosed cs before after opened unclosed =>
    refine iff_of_false ?_ (by simp [name?])
    rintro ⟨inside, encloses⟩
    rw [splitAt?_eq_some opened, List.append_assoc] at encloses
    obtain ⟨first, behind, rest, whole, closed, -⟩ := (clear_of_opened opened).encloses encloses
    have shorter : behind.length ≤ after.length := by
      have length := congrArg List.length whole
      simp only [List.length_append] at length
      omega
    obtain ⟨passed, rfl⟩ := List.suffix_of_suffix_length_le ⟨first ++ opening, whole.symm⟩
      (List.suffix_append opening after) shorter
    obtain ⟨_, _, found, -⟩ := splitAt?_le (passed ++ inside) closing rest
    rw [List.append_assoc, List.append_assoc, ← List.append_assoc inside, ← splitAt?_eq_some closed,
      unclosed] at found
    cases found
  | @closed cs before after inside rest segments opened closed more ih =>
    by_cases blank : trim inside = []
    · have named : (plain before :: braced inside :: segments).filterMap name? =
          segments.filterMap name? := by
        simp [List.filterMap_cons, name?, braced, blank]
      rw [named, ← ih]
      constructor
      · rintro ⟨x, encloses⟩
        rw [splitAt?_eq_some opened, List.append_assoc] at encloses
        exact ⟨x, .of_blank blank closed ((clear_of_opened opened).encloses encloses)⟩
      · rintro ⟨x, encloses⟩
        rw [eq_of_closed opened closed]
        exact ⟨x, encloses.behind _⟩
    · refine iff_of_true ⟨inside, before, after, rest, splitAt?_eq_some opened, closed, blank⟩ ?_
      simp [List.filterMap_cons, name?, braced, blank]

end Segment

namespace Template

open Segment

variable {s : String} {values : Inserts}

theorem names_render (unbraced : Unbraced values) (s : String) :
    names (render s values) = (names s).filter fun name => (values.get? name).isNone := by
  obtain ⟨others, cuts, named⟩ := (cuts_ofChars s.toList).filled unbraced
  rw [names, render, String.toList_ofList, cuts.eq_ofChars, named, names]

theorem render_unknown (unknown : ∀ name ∈ names s, values.get? name = none) :
    render s values = s := by
  rw [render, (cuts_ofChars s.toList).fill_unknown unknown, String.ofList_toList]

/-- Values without opening braces add no placeholders and join none: the rendered text lacks the same
values as the text, in the same order, and to render it again changes nothing. If no value is lacking,
then the rendered text has no placeholder left, and nowhere in it do double braces enclose anything but
blanks. -/
theorem render_settles (unbraced : Unbraced values) (s : String) :
    unresolved (render s values) values = unresolved s values ∧
      render (render s values) values = render s values ∧
      (unresolved s values = [] →
        names (render s values) = [] ∧ ∀ inside, ¬Encloses (render s values).toList inside) := by
  have left := names_render unbraced s
  refine ⟨?_, render_unknown fun name member => ?_, fun resolved => ?_⟩
  · rw [unresolved, unresolved, left, List.filter_filter]
    simp only [Bool.and_self]
  · rw [left, List.mem_filter, Option.isNone_iff_eq_none] at member
    exact member.2
  · have none : names (render s values) = [] := by
      refine List.eq_nil_iff_forall_not_mem.mpr fun name member => ?_
      rw [left, ← mem_distinctNames, ← unresolved, resolved] at member
      exact List.not_mem_nil member
    refine ⟨none, fun inside encloses => ?_⟩
    exact (cuts_ofChars _).encloses_iff.mp ⟨inside, encloses⟩ none

def nestedValues : Inserts :=
  [("a", .text ""), ("n", .number ⟨false, 150, 2, by decide, by decide⟩)]

def nestedText : String :=
  "\x7b\x7ba\x7d\x7d\x7b\x7b\x7ba\x7d\x7db\x7d\x7d\x7b\x7b \x7d\x7d\x7b\x7bb\x7d\x7d \x7b\x7bn\x7d\x7d \x7b\x7bb"

def nestedResult : String :=
  "\x7b\x7b\x7ba\x7d\x7db\x7d\x7d\x7b\x7b \x7d\x7d\x7b\x7bb\x7d\x7d 1.5 \x7b\x7bb"

/-- Braces within braces, around a blank and left open, and a value that is empty. -/
theorem render_settles_nested : Unbraced nestedValues ∧ render nestedText nestedValues = nestedResult ∧
    unresolved nestedText nestedValues = ["\x7ba", "b"] ∧
    unresolved nestedResult nestedValues = ["\x7ba", "b"] ∧
    render nestedResult nestedValues = nestedResult := by
  have unbraced : Unbraced nestedValues := by
    unfold Unbraced
    decide +kernel
  have rendered : render nestedText nestedValues = nestedResult := by decide +kernel
  have lacking : unresolved nestedText nestedValues = ["\x7ba", "b"] := by decide +kernel
  obtain ⟨same, again, -⟩ := render_settles unbraced nestedText
  rw [rendered] at same again
  exact ⟨unbraced, rendered, lacking, same.trans lacking, again⟩

end Template

end Questionnaire
