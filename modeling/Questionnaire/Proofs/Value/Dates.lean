import Questionnaire.Proofs.Value.Notation

/-!
Dates that are read from their own texts.

A year is written in four characters and its sign is one of them, but it is read in four digits. So a
date of a year between -999 and -1 is not read from its own text: no reader takes it, and it stays a
text. All other dates are restored, and so are the periods between them: `dates_restored_iff`.
-/

namespace Questionnaire

open Text Calendar

variable {c sep : Char} {cs ds rest : List Char} {n count value : Nat}

/-! ### Digits that are missing -/

theorem Text.mem_splitAll (member : c ∈ cs) (other : c ≠ sep) : ∃ part ∈ splitAll sep cs, c ∈ part := by
  induction cs with
  | nil => cases member
  | cons first cs ih =>
    unfold splitAll
    split
    · rename_i mark
      have later : c ∈ cs := (List.mem_cons.mp member).resolve_left (mark ▸ other)
      obtain ⟨part, listed, inside⟩ := ih later
      exact ⟨part, List.mem_cons_of_mem _ listed, inside⟩
    · cases parts : splitAll sep cs with
      | nil =>
        have here : c = first := by
          apply (List.mem_cons.mp member).resolve_right
          intro later
          obtain ⟨part, listed, -⟩ := ih later
          simp [parts] at listed
        exact ⟨[first], List.mem_cons_self, List.mem_singleton.mpr here⟩
      | cons part parts' =>
        rcases List.mem_cons.mp member with rfl | later
        · exact ⟨_, List.mem_cons_self, List.mem_cons_self⟩
        · obtain ⟨holder, listed, inside⟩ := ih later
          rw [parts] at listed
          rcases List.mem_cons.mp listed with rfl | listed
          · exact ⟨_, List.mem_cons_self, List.mem_cons_of_mem _ inside⟩
          · exact ⟨holder, List.mem_cons_of_mem _ listed, inside⟩

theorem Calendar.readFixed?_short (isDigits : IsDigits ds) (short : ds.length < count)
    (mark : Decimal.digit? c = none) : readFixed? count value (ds ++ c :: rest) = none := by
  induction ds generalizing count value with
  | nil =>
    obtain ⟨count, rfl⟩ := Nat.exists_eq_add_of_lt short
    simp [readFixed?, mark]
  | cons first ds ih =>
    obtain ⟨digit, isDigits⟩ := List.forall_mem_cons.mp isDigits
    cases count with
    | zero => cases short
    | succ count =>
      rw [List.cons_append, readFixed?, Decimal.digit?_of_isDigit digit]
      exact ih isDigits (Nat.lt_of_succ_lt_succ short)

namespace TimeSpan

theorem readCount?_eq_some (read : readCount? cs = some n) : IsDigits cs := by
  have digits (cs : List Char) : ∀ value,
      cs.foldlM (fun n c => (Decimal.digit? c).map (n * 10 + ·)) value = some n → IsDigits cs := by
    induction cs with
    | nil => exact fun _ _ => List.forall_mem_nil _
    | cons c cs ih =>
      intro value read
      rw [List.foldlM_cons] at read
      obtain ⟨next, digit, later⟩ := Option.bind_eq_some_iff.mp read
      obtain ⟨d, digit, -⟩ := Option.map_eq_some_iff.mp digit
      exact List.forall_mem_cons.mpr ⟨isDigit_of_digit? digit, ih next later⟩
  unfold readCount? at read
  split at read
  · cases read
  · exact digits cs 0 read

theorem readPart?_eq_some (read : readPart? cs = some n) : IsDigits cs := by
  unfold readPart? at read
  split at read
  · exact readCount?_eq_some read
  · cases read

theorem readClock?_eq_some (read : readClock? cs = some n) : ∀ c ∈ cs, c.isDigit = true ∨ c = ':' := by
  have digits_of {parts : List (List Char)} (split : splitAll ':' cs = parts)
      (isDigits : ∀ part ∈ parts, IsDigits part) : ∀ c ∈ cs, c.isDigit = true ∨ c = ':' := by
    intro c member
    by_cases colon : c = ':'
    · exact Or.inr colon
    · obtain ⟨part, listed, inside⟩ := mem_splitAll member colon
      exact Or.inl (isDigits part (split ▸ listed) c inside)
  unfold readClock? at read
  dsimp only at read
  split at read
  · rename_i hour minute split
    simp only [Option.bind_eq_bind, Option.bind_some, Option.bind_eq_some_iff] at read
    obtain ⟨_, readHour, _, readMinute, _⟩ := read
    refine digits_of split ?_
    simp [readPart?_eq_some readHour, readPart?_eq_some readMinute]
  · rename_i hour minute second split
    simp only [Option.bind_eq_bind, Option.bind_some, Option.bind_eq_some_iff] at read
    obtain ⟨_, readHour, _, readMinute, _, readSecond, _⟩ := read
    refine digits_of split ?_
    simp [readPart?_eq_some readHour, readPart?_eq_some readMinute, readPart?_eq_some readSecond]
  · cases read

theorem readUnsigned?_eq_some (read : readUnsigned? cs = some n) :
    ∀ c ∈ cs, c.isDigit = true ∨ c = ':' ∨ c = '.' := by
  unfold readUnsigned? at read
  dsimp only at read
  intro c member
  split at read
  · rename_i days clock cut
    simp only [Option.bind_eq_bind, Option.bind_eq_some_iff, Option.map_eq_some_iff] at read
    obtain ⟨_, ⟨_, readDays, rfl⟩, _, readClock, _⟩ := read
    obtain ⟨rfl, -⟩ := splitOnce?_eq_some.mp cut
    rcases List.mem_append.mp member with day | later
    · exact Or.inl (readCount?_eq_some readDays c day)
    · rcases List.mem_cons.mp later with point | inClock
      · exact Or.inr (Or.inr point)
      · exact (readClock?_eq_some readClock c inClock).imp_right Or.inl
  · simp only [Option.bind_eq_bind, Option.bind_some, Option.bind_eq_some_iff] at read
    obtain ⟨_, readClock, _⟩ := read
    exact (readClock?_eq_some readClock c member).imp_right Or.inl

theorem read?_of_dash (starts : c.isDigit = true ∨ c = '-') (dash : '-' ∈ cs) :
    read? (c :: cs) = none := by
  have unread {text : List Char} (inside : '-' ∈ text) : readUnsigned? text = none := by
    cases read : readUnsigned? text with
    | none => rfl
    | some total =>
      rcases readUnsigned?_eq_some read '-' inside with digit | colon | point
      · cases digit
      · cases colon
      · cases point
  rcases starts with digit | rfl
  · rw [read?_of_isDigit digit, unread (List.mem_cons_of_mem _ dash)]
    rfl
  · rw [read?_dash, unread dash]
    rfl

end TimeSpan

/-! ### Dates -/

namespace Moment

/-- Years of one to three digits before the first year of the calendar. -/
theorem readDate?_short {year : Nat} (short : year < 1000) :
    readDate? ('-' :: (padded 3 year ++ '-' :: rest)) = none := by
  have digits : (padded 3 year).length < 4 := by
    rw [length_padded (by decide) short]
    decide
  have unread : readFixed? 4 0 (padded 3 year ++ '-' :: rest) = none :=
    readFixed?_short (isDigits_padded 3 year) digits rfl
  simp [readDate?, unread]

/-- A moment is read from its own text just if its year is written in four digits. -/
theorem read?_chars_eq (m : Moment) :
    read? m.chars = if m.year ≤ -1000 ∨ 0 ≤ m.year then some m else none := by
  split
  · rename_i fourDigits
    exact read?_chars fourDigits
  · rename_i short
    have negative : m.year < 0 := by omega
    have small : m.year.natAbs < 1000 := by omega
    unfold read?
    rw [m.chars_eq, yearChars, if_pos negative, List.cons_append, readDate?_short small]
    rfl

theorem slash_not_mem_chars (m : Moment) : '/' ∉ m.chars := by
  intro member
  rcases mem_chars member with digit | dash | colon | mark
  · cases digit
  · cases dash
  · cases colon
  · cases mark

/-- A sign stands between the year of a date and its month. -/
theorem dash_mem_tail (m : Moment) : '-' ∈ m.chars.tail := by
  have year : yearChars m.year ≠ [] := by
    unfold yearChars
    split
    · exact List.cons_ne_nil _ _
    · exact padded_ne_nil _ _
  obtain ⟨first, others, text⟩ := List.exists_cons_of_ne_nil year
  rw [m.chars_eq, text, List.cons_append, List.tail_cons]
  exact List.mem_append_right _ List.mem_cons_self

end Moment

theorem Period.read?_momentChars (m : Moment) : Period.read? m.chars = none := by
  unfold Period.read?
  rw [splitOnce?_of_absent m.slash_not_mem_chars]
  rfl

theorem Period.read?_chars_eq (p : Period) : Period.read? p.chars =
    if (p.start.year ≤ -1000 ∨ 0 ≤ p.start.year) ∧ (p.finish.year ≤ -1000 ∨ 0 ≤ p.finish.year)
    then some p else none := by
  split
  · rename_i fourDigits
    exact Period.read?_chars fourDigits.1 fourDigits.2
  · rename_i short
    unfold Period.read? Period.chars
    rw [splitOnce?_append p.start.slash_not_mem_chars]
    simp only [Option.bind_eq_bind, Option.bind_some, trim_of_plain (Moment.not_isBlank_chars _),
      Moment.read?_chars_eq]
    rcases not_and_or.mp short with start | finish
    · rw [if_neg start]
      rfl
    · rw [if_neg finish]
      split <;> rfl

theorem TimeSpan.read?_momentChars (m : Moment) : TimeSpan.read? m.chars = none := by
  obtain ⟨first, others, text, starts⟩ := m.chars_cons
  have dash := m.dash_mem_tail
  rw [text] at dash ⊢
  exact TimeSpan.read?_of_dash starts dash

theorem TimeSpan.read?_periodChars (p : Period) : TimeSpan.read? p.chars = none := by
  obtain ⟨first, others, text, starts⟩ := p.start.chars_cons
  have dash := p.start.dash_mem_tail
  unfold Period.chars
  rw [text] at dash ⊢
  exact TimeSpan.read?_of_dash starts (List.mem_append_left _ dash)

/-! ### Values -/

namespace Value

theorem ofText_moment (m : Moment) : ofText (moment m).toText =
    if m.year ≤ -1000 ∨ 0 ≤ m.year then moment m else text (moment m).toText := by
  have read : read? m.chars = (Moment.read? m.chars).map moment := by
    simp [read?, readBoolean?_of_start m.chars_cons, Decimal.readPlainText?_moment,
      Period.read?_momentChars, TimeSpan.read?_momentChars]
  rw [ofText, toText, String.toList_ofList, trim_of_plain m.not_isBlank_chars, read,
    Moment.read?_chars_eq]
  split <;> rfl

theorem ofText_period (p : Period) : ofText (period p).toText =
    if (p.start.year ≤ -1000 ∨ 0 ≤ p.start.year) ∧ (p.finish.year ≤ -1000 ∨ 0 ≤ p.finish.year)
    then period p else text (period p).toText := by
  have read : read? p.chars = (Period.read? p.chars).map period := by
    simp [read?, readBoolean?_of_start p.chars_cons, Decimal.readPlainText?_period,
      Moment.read?_periodChars, TimeSpan.read?_periodChars]
  rw [ofText, toText, String.toList_ofList, trim_of_plain p.not_isBlank_chars, read,
    Period.read?_chars_eq]
  split <;> rfl

/-- A date is read from its own text just if its year is not between -999 and -1, and a period if both
its ends are such dates. What is not read again stays a text. -/
theorem dates_restored_iff (m : Moment) (p : Period) :
    (ofText (moment m).toText = moment m ↔ m.year ≤ -1000 ∨ 0 ≤ m.year) ∧
      (ofText (moment m).toText = moment m ∨ ofText (moment m).toText = text (moment m).toText) ∧
      (ofText (period p).toText = period p ↔
        (p.start.year ≤ -1000 ∨ 0 ≤ p.start.year) ∧ (p.finish.year ≤ -1000 ∨ 0 ≤ p.finish.year)) ∧
      (ofText (period p).toText = period p ∨ ofText (period p).toText = text (period p).toText) := by
  rw [ofText_moment, ofText_period]
  refine ⟨?_, ?_, ?_, ?_⟩ <;> split <;> simp_all

/-- The year -5 is written in three digits, which make no date. -/
theorem short_year_lost : ∃ m : Moment, ofText "-0005-01-01" = moment m ∧
    (moment m).toText = "-005-01-01" ∧ ofText (moment m).toText = text "-005-01-01" := by
  refine ⟨⟨-5, 1, 1, 0, 0, 0, by decide⟩, ?_, ?_, ?_⟩ <;> decide

end Value

end Questionnaire
