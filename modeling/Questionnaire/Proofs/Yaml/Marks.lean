import Mathlib.Data.List.TakeWhile
import Questionnaire.Proofs.Outcome
import Questionnaire.Yaml.Cursor
import Questionnaire.Yaml.Token

/-!
The marks of a YAML text.

A mark is determined by what stands before it: `Mark.behind`. The one exception is the end of a text whose
last line is not ended, which is told as the beginning of a line that the text does not have. Whatever moves
a cursor over characters of a line, or over a line break, leads from place to place: `Cursor.Of`.

Not every line break is a newline. The others are counted by `foreignBreaks`.
-/

namespace Questionnaire.Yaml

open Text (byteLength byteLength_append)

variable {before after w : List Char} {x : Char}

/-! ### Lines and columns -/

/-- The line breaks that no newline is part of. -/
def foreignBreaks : List Char → Nat
  | [] => 0
  | x :: rest =>
    foreignBreaks rest +
      if isBreak x && x != '\n' && !(x == '\r' && startsWith '\n' rest) then 1 else 0

/-- Every line break is a newline, or a carriage return in front of one. -/
def Newlined (cs : List Char) : Prop :=
  ∀ left x right, cs = left ++ x :: right → isBreak x = true → x = '\n' ∨ x = '\r' ∧ right.head? = some '\n'

/-- The line breaks of a text. A carriage return and the newline behind it are one. -/
def lineBreaks (cs : List Char) : Nat := cs.count '\n' + foreignBreaks cs

def lastLine (cs : List Char) : List Char := (cs.reverse.takeWhile fun x => !isBreak x).reverse

/-- The place behind a text. -/
def Mark.behind (before : List Char) : Mark :=
  ⟨byteLength before, lineBreaks before, (lastLine before).length⟩

/-- The two parts of a text do not share a line break. -/
def Apart (before after : List Char) : Prop :=
  before.getLast? = some '\r' → after.head? ≠ some '\n'

theorem newlined_cons : Newlined (x :: w) ↔
    (isBreak x = true → x = '\n' ∨ x = '\r' ∧ w.head? = some '\n') ∧ Newlined w := by
  constructor
  · intro newlined
    refine ⟨newlined [] x w rfl, fun left y right whole => ?_⟩
    exact newlined (x :: left) y right (congrArg (x :: ·) whole)
  · rintro ⟨here, later⟩ left y right whole
    cases left with
    | nil =>
      obtain ⟨rfl, rfl⟩ := List.cons.inj whole
      exact here
    | cons z left => exact later left y right (List.cons.inj whole).2

theorem foreignBreaks_eq_zero : foreignBreaks w = 0 ↔ Newlined w := by
  induction w with
  | nil => simp [foreignBreaks, Newlined]
  | cons x w ih =>
    have here : (if isBreak x && x != '\n' && !(x == '\r' && startsWith '\n' w) then 1 else 0) = 0 ↔
        (isBreak x = true → x = '\n' ∨ x = '\r' ∧ w.head? = some '\n') := by
      simp only [startsWith, ite_eq_right_iff, Nat.one_ne_zero, imp_false, Bool.and_eq_true, bne_iff_ne,
        Bool.not_eq_true', Bool.and_eq_false_iff, beq_eq_false_iff_ne]
      tauto
    rw [newlined_cons, ← ih, foreignBreaks, Nat.add_eq_zero_iff, and_comm, here]

theorem foreignBreaks_append (apart : Apart before after) :
    foreignBreaks (before ++ after) = foreignBreaks before + foreignBreaks after := by
  induction before with
  | nil => simp [foreignBreaks]
  | cons x before ih =>
    cases before with
    | nil =>
      by_cases carriage : x = '\r'
      · subst carriage
        have absent : after.head? ≠ some '\n' := apart rfl
        simp [foreignBreaks, absent, startsWith, Nat.add_comm]
      · simp [foreignBreaks, carriage, Nat.add_comm]
    | cons y before =>
      have later := ih fun last => apart (by simpa using last)
      have same : startsWith '\n' (y :: before ++ after) = startsWith '\n' (y :: before) := rfl
      rw [List.cons_append, foreignBreaks, later, same, foreignBreaks.eq_2 x]
      omega

theorem lineBreaks_append (apart : Apart before after) :
    lineBreaks (before ++ after) = lineBreaks before + lineBreaks after := by
  rw [lineBreaks, List.count_append, foreignBreaks_append apart]
  simp only [lineBreaks]
  omega

def Solid (w : List Char) : Prop := ∀ x ∈ w, isBreak x = false

instance (w : List Char) : Decidable (Solid w) :=
  decidable_of_iff (w.any isBreak = false) (by simp [Solid])

theorem lineBreaks_of_solid (solid : Solid w) : lineBreaks w = 0 := by
  have count : w.count '\n' = 0 := List.count_eq_zero.mpr fun member => absurd (solid _ member) (by decide)
  have foreign : foreignBreaks w = 0 := by
    clear count
    induction w with
    | nil => rfl
    | cons x w ih =>
      obtain ⟨here, later⟩ := List.forall_mem_cons.mp solid
      simp [foreignBreaks, ih later, here]
  rw [lineBreaks, count, foreign]

theorem apart_of_solid (solid : Solid w) (apart : Apart before (w ++ after)) : Apart (before ++ w) after := by
  rcases List.eq_nil_or_concat w with rfl | ⟨first, x, rfl⟩
  · simpa using apart
  · intro last
    have carriage : x = '\r' := by simpa [← List.append_assoc] using last
    have solid := solid x (by simp)
    rw [carriage] at solid
    cases solid

theorem behind_solid (solid : Solid w) (apart : Apart before (w ++ after)) :
    Mark.behind (before ++ w) = ⟨byteLength before + byteLength w, lineBreaks before,
      (lastLine before).length + w.length⟩ := by
  have unsplit : Apart before w := by
    intro last
    have absent := apart last
    cases w with
    | nil => simp
    | cons x w => simpa using absent
  have column : (lastLine (before ++ w)).length = (lastLine before).length + w.length := by
    have whole : ∀ x ∈ w.reverse, (!isBreak x) = true := by
      intro x member
      simp [solid x (List.mem_reverse.mp member)]
    simp only [lastLine, List.length_reverse, List.reverse_append]
    rw [List.takeWhile_append_of_pos whole, List.length_append, List.length_reverse, Nat.add_comm]
  rw [Mark.behind, byteLength_append, lineBreaks_append unsplit, lineBreaks_of_solid solid, column]
  rfl

theorem behind_break (apart : Apart before [x]) (ended : isBreak x = true) :
    Mark.behind (before ++ [x]) = ⟨byteLength before + x.utf8Size, lineBreaks before + 1, 0⟩ := by
  have one : lineBreaks [x] = 1 := by
    by_cases newline : x = '\n'
    · subst newline
      rfl
    · simp [lineBreaks, foreignBreaks, startsWith, newline, ended]
  have column : lastLine (before ++ [x]) = [] := by simp [lastLine, ended]
  rw [Mark.behind, byteLength_append, lineBreaks_append apart, one, column]
  rfl

theorem behind_pair : Mark.behind (before ++ ['\r', '\n']) =
    ⟨byteLength before + 2, lineBreaks before + 1, 0⟩ := by
  have apart : Apart before ['\r', '\n'] := fun _ => by decide
  have column : lastLine (before ++ ['\r', '\n']) = [] := by
    simp [lastLine, show isBreak '\n' = true from rfl]
  rw [Mark.behind, byteLength_append, lineBreaks_append apart, column]
  rfl

/-- What holds of no line break holds of characters of a line only. -/
theorem solid_of_refused {p : Char → Bool}
    (refused : ['\n', '\r', '\x85', '\u2028', '\u2029'].any p = false) (holds : p x = true) :
    isBreak x = false := by
  by_contra ended
  have listed : x ∈ ['\n', '\r', '\x85', '\u2028', '\u2029'] := by
    simpa only [isBreak, Bool.not_eq_false, Bool.or_eq_true, beq_iff_eq, or_assoc, List.mem_cons,
      List.not_mem_nil, or_false] using ended
  exact List.any_eq_false.mp refused x listed holds

/-! ### Places -/

/-- A cursor in a text: between two of its parts, or at the end of a text whose last line is not ended, on
the line that would come next. -/
inductive Cursor.Of (text : List Char) : Cursor → Prop
  | place {before after : List Char} (whole : text = before ++ after) (apart : Apart before after) :
      Of text ⟨after, .behind before⟩
  | pastEnd (unended : lastLine text ≠ []) : Of text ⟨[], ⟨byteLength text, lineBreaks text + 1, 0⟩⟩

def Mark.Of (text : List Char) (m : Mark) : Prop := ∃ c : Cursor, c.Of text ∧ c.mark = m

variable {text rest : List Char} {c : Cursor}

namespace Cursor

theorem Of.mark (placed : c.Of text) : c.mark.Of text := ⟨c, placed, rfl⟩

theorem of_start (text : List Char) : (Cursor.mk text .start).Of text := by
  have unbegun : Apart [] text := fun last => by cases last
  exact .place rfl unbegun

/-! #### Moving -/

theorem Of.over (placed : c.Of text) (ahead : c.rest = w ++ rest) (solid : Solid w) :
    (c.skip w.length).Of text := by
  cases placed with
  | @place before after whole apart =>
    subst ahead
    have next : (Cursor.mk (w ++ rest) (.behind before)).skip w.length =
        ⟨rest, .behind (before ++ w)⟩ := by
      rw [behind_solid solid apart, skip, List.drop_left, List.take_left]
      rfl
    rw [next]
    exact .place (by rw [whole, List.append_assoc]) (apart_of_solid solid apart)
  | pastEnd unended =>
    obtain ⟨rfl, -⟩ := List.append_eq_nil_iff.mp ahead.symm
    exact .pastEnd unended

theorem Of.next (placed : c.Of text) (ahead : c.rest = x :: rest) (solid : isBreak x = false) :
    (c.skip 1).Of text :=
  placed.over (w := [x]) ahead (List.forall_mem_singleton.mpr solid)

theorem Of.skipWhile {p : Char → Bool} (placed : c.Of text) (solid : ∀ x, p x = true → isBreak x = false) :
    (c.skipWhile p).Of text :=
  placed.over List.takeWhile_append_dropWhile.symm fun x member => solid x (List.mem_takeWhile_imp member)

theorem Of.skipUpTo {p : Char → Bool} {n : Nat} (placed : c.Of text)
    (solid : ∀ x, p x = true → isBreak x = false) (bounded : n ≤ (c.rest.takeWhile p).length) :
    (c.skip n).Of text := by
  have whole := List.takeWhile_prefix p (l := c.rest)
  have short : n ≤ c.rest.length := le_trans bounded whole.length_le
  have first : c.rest.take n <+: c.rest.takeWhile p :=
    List.prefix_of_prefix_length_le (List.take_prefix n _) whole (by rwa [List.length_take_of_le short])
  have moved := placed.over (List.take_append_drop n c.rest).symm fun x member =>
    solid x (List.mem_takeWhile_imp (first.subset member))
  rwa [List.length_take_of_le short] at moved

theorem Of.skipBlanks (placed : c.Of text) : c.skipBlanks.Of text :=
  placed.skipWhile fun _ => solid_of_refused rfl

theorem Of.skipToBreak (placed : c.Of text) : c.skipToBreak.Of text :=
  placed.skipWhile fun _ solid => by simpa using solid

theorem Of.skipComment (placed : c.Of text) :
    (if startsWith '#' c.rest then c.skipToBreak else c).Of text := by
  split
  · exact placed.skipToBreak
  · exact placed

theorem Of.skipLine (placed : c.Of text) : c.skipLine.Of text := by
  cases placed with
  | pastEnd unended => exact .pastEnd unended
  | @place before after whole apart =>
    unfold Cursor.skipLine
    split
    · rename_i rest ahead
      subst ahead
      have paired : Apart (before ++ ['\r', '\n']) rest := fun last => by simp at last
      have next : (Cursor.mk rest (.behind (before ++ ['\r', '\n']))).Of text :=
        .place (by rw [whole, List.append_assoc]; rfl) paired
      rwa [behind_pair] at next
    · rename_i x rest unpaired ahead
      subst ahead
      split
      · rename_i ended
        have alone : Apart before [x] := fun last => by simpa using apart last
        have next : (Cursor.mk rest (.behind (before ++ [x]))).Of text := by
          refine .place (by rw [whole, List.append_assoc]; rfl) fun last newline => ?_
          have carriage : x = '\r' := by simpa using last
          obtain ⟨others, rfl⟩ := List.head?_eq_some_iff.mp newline
          exact unpaired others carriage rfl
        rwa [behind_break alone ended] at next
      · exact .place whole apart
    · exact .place whole apart

end Cursor

/-- The end of a text is told on a line of its own. -/
theorem Cursor.Of.atEnd (placed : c.Of text) (ended : c.rest = []) :
    (Cursor.mk [] (if c.mark.column = 0 then c.mark else ⟨c.mark.index, c.mark.line + 1, 0⟩)).Of text := by
  split
  · rw [← ended]
    exact placed
  · rename_i begun
    cases placed with
    | place whole apart =>
      subst ended
      rw [List.append_nil] at whole
      subst whole
      have unended : lastLine text ≠ [] := fun empty => begun (congrArg List.length empty)
      exact .pastEnd unended
    | pastEnd => exact absurd rfl begun

/-! ### Scanning -/

theorem exists_of_startsWith (h : startsWith x w = true) : ∃ rest, w = x :: rest :=
  List.head?_eq_some_iff.mp (eq_of_beq h)

def Token.Of (text : List Char) (t : Token) : Prop := t.start.Of text ∧ t.stop.Of text

/-- What a scanner gives, if its problems are at marks of the text. -/
abbrev Scans (text : List Char) {α : Type} (good : α → Prop) (scanned : Except FormError α) : Prop :=
  Settles (fun e => e.mark.Of text) good scanned

section

variable {α : Type} {good : α → Prop} {problem : Problem} {context : Context} {since : Mark}

theorem scans_fail {context : Option (Context × Mark)} (placed : c.Of text) :
    Scans text good (c.fail problem context) :=
  placed.mark

theorem scans_failIn (placed : c.Of text) : Scans text good (c.failIn context since problem) :=
  scans_fail placed

/-- A check that refuses here, and what comes after it. -/
theorem scans_check {refused : Prop} [Decidable refused] {β : Type} {next : β → Except FormError α}
    {rest : Except FormError α} (placed : c.Of text) (passed : ¬refused → Scans text good rest) :
    Scans text good (if refused then c.failIn context since problem >>= next else rest) :=
  settles_refuse placed.mark passed

end

end Questionnaire.Yaml
