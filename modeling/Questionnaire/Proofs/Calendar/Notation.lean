import Questionnaire.Proofs.Decimal.Notation
import Questionnaire.Proofs.Outcome

/-!
Moments, periods and spans that are written and read again.

A moment of a year in four digits is read from its own text, and so is a period of two such moments:
`Moment.read?_chars`, `Period.read?_chars`. A span is if its sign can be taken off:
`TimeSpan.read?_chars`. No text of one of them is read as another.
-/

namespace Questionnaire

open Text Calendar

namespace Calendar

variable {year month day hour minute second : Nat} {rest : List Char} {c : Char} {count value : Nat}
  {cs : List Char}

@[simp] theorem readMark?_cons (mark : Char) : readMark? mark (mark :: rest) = some rest :=
  if_pos rfl

theorem padded_cons (width n : Nat) :
    ∃ first others, padded width n = first :: others ∧ first.isDigit = true := by
  obtain ⟨first, others, text⟩ := List.exists_cons_of_ne_nil (padded_ne_nil width n)
  exact ⟨first, others, text, isDigits_padded width n first (text ▸ List.mem_cons_self)⟩

/-! ### Dates and clocks -/

/-- A date after the sign of its year. -/
def dateChars (year month day : Nat) (rest : List Char) : List Char :=
  padded 4 year ++ '-' :: (padded 2 month ++ '-' :: (padded 2 day ++ rest))

theorem readDate?_of_isDigit (digit : c.isDigit = true) :
    readDate? (c :: cs) = (do
      let (year, cs) ← readFixed? 4 0 (c :: cs)
      let cs ← readMark? '-' cs
      let (month, cs) ← readFixed? 2 0 cs
      let cs ← readMark? '-' cs
      let (day, cs) ← readFixed? 2 0 cs
      return (((year : Int), month, day), cs)) := by
  have minus : c ≠ '-' := by
    rintro rfl
    cases digit
  have plus : c ≠ '+' := by
    rintro rfl
    cases digit
  simp [readDate?, minus, plus]

theorem readDate?_dateChars (years : year < 10000) (months : month < 100) (days : day < 100) :
    readDate? (dateChars year month day rest) = some (((year : Int), month, day), rest) := by
  obtain ⟨first, others, text, digit⟩ := padded_cons 4 year
  rw [dateChars, text, List.cons_append, readDate?_of_isDigit digit, ← List.cons_append, ← text,
    readFixed?_padded (by decide) years]
  simp [readFixed?_padded (by decide : 0 < 2) months,
    readFixed?_padded (by decide : 0 < 2) days]

theorem readDate?_negative (years : year < 10000) (months : month < 100) (days : day < 100) :
    readDate? ('-' :: dateChars year month day rest) = some ((-(year : Int), month, day), rest) := by
  unfold readDate? dateChars
  simp [readFixed?_padded (by decide : 0 < 4) years,
    readFixed?_padded (by decide : 0 < 2) months,
    readFixed?_padded (by decide : 0 < 2) days]

theorem readClock?_padded (hours : hour < 100) (minutes : minute < 100) (seconds : second < 100) :
    readClock? (padded 2 hour ++ ':' :: (padded 2 minute ++ ':' :: padded 2 second)) =
      some (hour, minute, second) := by
  have last : readFixed? 2 0 (padded 2 second ++ []) = some (second, []) :=
    readFixed?_padded (by decide) seconds
  rw [List.append_nil] at last
  unfold readClock?
  simp [readFixed?_padded (by decide : 0 < 2) hours,
    readFixed?_padded (by decide : 0 < 2) minutes, last]

theorem monthLength_le (year : Int) (month : Nat) : monthLength year month ≤ 31 := by
  unfold monthLength
  split
  · split <;> decide
  · split <;> decide

/-! ### What is read -/

theorem isDigit_of_digit? {n : Nat} (h : Decimal.digit? c = some n) : c.isDigit = true := by
  unfold Decimal.digit? at h
  split at h
  · exact Char.isDigit_iff_toNat.mpr ‹_›
  · cases h

theorem readFixed?_eq_some {n : Nat} (h : readFixed? count value cs = some (n, rest)) :
    ∃ ds, cs = ds ++ rest ∧ IsDigits ds ∧ ds.length = count := by
  induction count generalizing value cs with
  | zero =>
    cases h
    exact ⟨[], rfl, List.forall_mem_nil _, rfl⟩
  | succ count ih =>
    cases cs with
    | nil => cases h
    | cons c cs =>
      rw [readFixed?] at h
      split at h
      · obtain ⟨ds, rfl, isDigits, length⟩ := ih h
        exact ⟨c :: ds, rfl, List.forall_mem_cons.mpr ⟨isDigit_of_digit? ‹_›, isDigits⟩,
          congrArg (· + 1) length⟩
      · cases h

theorem readMark?_eq_some {mark : Char} (h : readMark? mark cs = some rest) : cs = mark :: rest := by
  unfold readMark? at h
  split at h
  · split at h
    · rename_i same
      cases h
      rw [same]
    · cases h
  · cases h

theorem sign_eq (cs : List Char) :
    ∃ sign, cs = sign ++ (match cs with
        | '-' :: rest => (true, rest)
        | '+' :: rest => (false, rest)
        | rest => (false, rest)).2 ∧ ∀ c ∈ sign, c = '-' ∨ c = '+' := by
  split
  · exact ⟨['-'], rfl, by simp⟩
  · exact ⟨['+'], rfl, by simp⟩
  · exact ⟨[], rfl, by simp⟩

theorem readDate?_eq_some {date : Int × Nat × Nat} (h : readDate? cs = some (date, rest)) :
    ∃ sign year month day, cs = sign ++ (year ++ '-' :: (month ++ '-' :: (day ++ rest))) ∧
      (∀ c ∈ sign, c = '-' ∨ c = '+') ∧ year ≠ [] ∧ IsDigits year ∧ IsDigits month ∧
      IsDigits day := by
  unfold readDate? at h
  simp only [Option.bind_eq_bind, Option.bind_eq_some_iff, Prod.exists] at h
  obtain ⟨_, _, first, _, mark, _, _, second, _, mark', _, _, third, rest⟩ := h
  obtain ⟨sign, text, signs⟩ := sign_eq cs
  obtain ⟨year, text', years, length⟩ := readFixed?_eq_some first
  obtain ⟨month, rfl, months, _⟩ := readFixed?_eq_some second
  obtain ⟨day, rfl, days, _⟩ := readFixed?_eq_some third
  cases rest
  refine ⟨sign, year, month, day, text.trans (congrArg (sign ++ ·) ?_), signs, ?_, years, months,
    days⟩
  · rw [readMark?_eq_some mark, readMark?_eq_some mark'] at text'
    exact text'
  · rintro rfl
    cases length

theorem readClock?_eq_some {clock : Nat × Nat × Nat} (h : readClock? cs = some clock) :
    ∀ c ∈ cs, c.isDigit = true ∨ c = ':' := by
  have joined {ds rest : List Char} (isDigits : IsDigits ds)
      (others : ∀ c ∈ rest, c.isDigit = true ∨ c = ':') :
      ∀ c ∈ ds ++ rest, c.isDigit = true ∨ c = ':' := by
    intro c member
    rcases List.mem_append.mp member with digit | other
    · exact Or.inl (isDigits c digit)
    · exact others c other
  unfold readClock? at h
  simp only [Option.bind_eq_bind, Option.bind_eq_some_iff, Prod.exists] at h
  obtain ⟨_, _, first, _, mark, _, _, second, rest⟩ := h
  obtain ⟨hour, rfl, hours, _⟩ := readFixed?_eq_some first
  obtain ⟨minute, rfl, minutes, _⟩ := readFixed?_eq_some second
  rw [readMark?_eq_some mark]
  refine joined hours (List.forall_mem_cons.mpr ⟨Or.inr rfl, joined minutes ?_⟩)
  split at rest
  · exact List.forall_mem_nil _
  · simp only [Option.bind_eq_some_iff, Prod.exists] at rest
    obtain ⟨_, mark, _, _, third, ends⟩ := rest
    obtain ⟨second, rfl, seconds, _⟩ := readFixed?_eq_some third
    rw [readMark?_eq_some mark]
    refine List.forall_mem_cons.mpr ⟨Or.inr rfl, joined seconds ?_⟩
    split at ends
    · exact List.forall_mem_nil _
    · cases ends

end Calendar

namespace Moment

variable {m : Moment} {cs : List Char}

theorem ofFields?_self (m : Moment) :
    ofFields? m.year m.month m.day m.hour m.minute m.second = some m :=
  dif_pos m.valid

theorem chars_eq (m : Moment) : m.chars = yearChars m.year ++ '-' ::
    (padded 2 m.month ++ '-' :: (padded 2 m.day ++ if m.isMidnight then [] else 'T' ::
      (padded 2 m.hour ++ ':' :: (padded 2 m.minute ++ ':' :: padded 2 m.second)))) := by
  simp [chars]

/-- In the year of a date the sign may take the place of a digit. -/
theorem yearChars_of_neg {year : Int} (fourDigits : year ≤ -1000) :
    yearChars year = '-' :: padded 4 year.natAbs := by
  have large : 1000 ≤ year.natAbs := by omega
  have long : 3 < (Decimal.digits year.natAbs).length := lt_length_digits (by decide) large
  rw [yearChars, if_pos (by omega), padded_of_le (Nat.le_of_lt long), padded_of_le long]

theorem readDate?_chars (fourDigits : m.year ≤ -1000 ∨ 0 ≤ m.year) :
    readDate? m.chars = some ((m.year, m.month, m.day), if m.isMidnight then [] else 'T' ::
      (padded 2 m.hour ++ ':' :: (padded 2 m.minute ++ ':' :: padded 2 m.second))) := by
  obtain ⟨lower, upper, _, months, _, days, _⟩ := m.valid
  have short := monthLength_le m.year m.month
  rw [chars_eq]
  rcases fourDigits with negative | positive
  · have sign : -(m.year.natAbs : Int) = m.year := by omega
    rw [yearChars_of_neg negative]
    refine (readDate?_negative (by omega) (by omega) (by omega)).trans ?_
    rw [sign]
  · have sign : (m.year.natAbs : Int) = m.year := by omega
    rw [yearChars, if_neg (by omega)]
    refine (readDate?_dateChars (by omega) (by omega) (by omega)).trans ?_
    rw [sign]

/-- A moment is read from its own text if its year is written in four digits. -/
theorem read?_chars (fourDigits : m.year ≤ -1000 ∨ 0 ≤ m.year) : read? m.chars = some m := by
  obtain ⟨_, _, _, _, _, _, hours, minutes, seconds⟩ := m.valid
  unfold read?
  rw [readDate?_chars fourDigits]
  cases midnight : m.isMidnight with
  | true =>
    simp only [isMidnight, Bool.and_eq_true, beq_iff_eq] at midnight
    obtain ⟨⟨hour, minute⟩, second⟩ := midnight
    have self := ofFields?_self m
    rw [hour, minute, second] at self
    exact self
  | false =>
    simp [readClock?_padded (by omega : m.hour < 100) (by omega : m.minute < 100)
      (by omega : m.second < 100), ofFields?_self]

/-- What is read as a moment holds a sign between digits, and no slash. -/
theorem read?_eq_some (h : read? cs = some m) : '-' ∈ cs.tail ∧ '/' ∉ cs := by
  unfold read? at h
  simp only [Option.bind_eq_bind, Option.bind_eq_some_iff, Prod.exists] at h
  obtain ⟨_, _, _, rest, date, ends⟩ := h
  obtain ⟨sign, year, month, day, rfl, signs, given, years, months, days⟩ := readDate?_eq_some date
  have digit {ds : List Char} (isDigits : IsDigits ds) : '/' ∉ ds := fun member =>
    nomatch isDigits '/' member
  have clock : '/' ∉ rest := by
    split at ends
    · exact List.not_mem_nil
    · split at ends
      · rename_i mark
        simp only [Option.bind_eq_some_iff, Prod.exists] at ends
        obtain ⟨_, _, _, clock, _⟩ := ends
        rw [List.mem_cons, not_or]
        refine ⟨?_, fun member => ?_⟩
        · rcases mark with rfl | rfl <;> decide
        · rcases readClock?_eq_some clock '/' member with digit | colon
          · cases digit
          · cases colon
      · cases ends
  constructor
  · rw [← List.append_assoc]
    obtain ⟨first, others, text⟩ :=
      List.exists_cons_of_ne_nil (List.append_ne_nil_of_right_ne_nil sign given)
    rw [text, List.cons_append, List.tail_cons]
    exact List.mem_append_right _ List.mem_cons_self
  · simp only [List.mem_append, List.mem_cons, not_or]
    refine ⟨fun member => ?_, digit years, by decide, digit months, by decide, digit days, clock⟩
    rcases signs '/' member with dash | plus
    · cases dash
    · cases plus

theorem chars_cons (m : Moment) :
    ∃ first others, m.chars = first :: others ∧ (first.isDigit = true ∨ first = '-') := by
  rw [chars_eq, yearChars]
  split
  · exact ⟨'-', _, rfl, Or.inr rfl⟩
  · obtain ⟨first, others, text, digit⟩ := padded_cons 4 m.year.natAbs
    exact ⟨first, _, by rw [text, List.cons_append], Or.inl digit⟩

theorem mem_chars {c : Char} (member : c ∈ m.chars) :
    c.isDigit = true ∨ c = '-' ∨ c = ':' ∨ c = 'T' := by
  have digits {width n : Nat} (member : c ∈ padded width n) : c.isDigit = true :=
    isDigits_padded width n c member
  have year : c ∈ yearChars m.year → c.isDigit = true ∨ c = '-' := by
    unfold yearChars
    split
    · intro member
      exact (List.mem_cons.mp member).symm.imp_left digits
    · exact fun member => Or.inl (digits member)
  rw [chars_eq] at member
  split at member
  all_goals
    simp only [List.mem_append, List.mem_cons] at member
    grind

end Moment

namespace TimeSpan

variable {t : TimeSpan} {total : Nat} {c : Char}

def clockChars (total : Nat) : List Char :=
  padded 2 (total % 86400 / 3600) ++ ':' ::
    (padded 2 (total % 3600 / 60) ++ ':' :: padded 2 (total % 60))

/-- A span without its sign: whole days, if there are any, and the time of the last one. -/
def unsignedChars (total : Nat) : List Char :=
  if 86400 ≤ total then Decimal.digits (total / 86400) ++ '.' :: clockChars total
  else clockChars total

theorem chars_eq (t : TimeSpan) :
    t.chars = (if t.seconds < 0 then ['-'] else []) ++ unsignedChars t.seconds.natAbs := rfl

theorem mem_clockChars (member : c ∈ clockChars total) : c.isDigit = true ∨ c = ':' := by
  simp only [clockChars, List.mem_append, List.mem_cons] at member
  rcases member with hour | colon | minute | colon | second
  · exact Or.inl (isDigits_padded _ _ c hour)
  · exact Or.inr colon
  · exact Or.inl (isDigits_padded _ _ c minute)
  · exact Or.inr colon
  · exact Or.inl (isDigits_padded _ _ c second)

theorem mem_unsignedChars (member : c ∈ unsignedChars total) :
    c.isDigit = true ∨ c = ':' ∨ c = '.' := by
  unfold unsignedChars at member
  split at member
  · rcases List.mem_append.mp member with digit | rest
    · exact Or.inl (Decimal.isDigits_digits _ c digit)
    · rcases List.mem_cons.mp rest with point | clock
      · exact Or.inr (Or.inr point)
      · exact (mem_clockChars clock).imp_right Or.inl
  · exact (mem_clockChars member).imp_right Or.inl

theorem colon_mem_unsignedChars : ':' ∈ unsignedChars total := by
  have clock : ':' ∈ clockChars total := List.mem_append_right _ List.mem_cons_self
  unfold unsignedChars
  split
  · exact List.mem_append_right _ (List.mem_cons_of_mem _ clock)
  · exact clock

theorem unsignedChars_cons (total : Nat) :
    ∃ first others, unsignedChars total = first :: others ∧ first.isDigit = true := by
  unfold unsignedChars
  split
  · obtain ⟨first, others, text⟩ :=
      List.exists_cons_of_ne_nil (Decimal.digits_ne_nil (n := total / 86400))
    rw [text]
    exact ⟨first, _, rfl, Decimal.isDigits_digits _ first (text ▸ List.mem_cons_self)⟩
  · obtain ⟨first, others, text, digit⟩ := padded_cons 2 (total % 86400 / 3600)
    rw [clockChars, text]
    exact ⟨first, _, rfl, digit⟩

theorem readClock?_clockChars : readClock? (clockChars total) = some (total % 86400) := by
  have absent (n : Nat) : ':' ∉ padded 2 n := fun member => nomatch isDigits_padded 2 n ':' member
  have hours : total % 86400 / 3600 < 24 := by omega
  have minutes : total % 3600 / 60 < 60 := by omega
  have seconds : total % 60 < 60 := by omega
  unfold readClock?
  rw [clockChars, splitAll_append (absent _), splitAll_append (absent _),
    splitAll_of_absent (absent _)]
  simp (disch := omega) only [Option.bind_eq_bind, Option.bind_some, readPart?_padded]
  rw [if_pos ⟨by omega, by omega, by omega⟩]
  have worth : total % 86400 / 3600 * 3600 + total % 3600 / 60 * 60 + total % 60 = total % 86400 := by
    omega
  exact congrArg some worth

def readUnsigned? (cs : List Char) : Option Nat := do
  let (days, clock) ← match splitOnce? '.' cs with
    | some (days, clock) => (readCount? days).map fun days => (days, clock)
    | none => some (0, cs)
  let clock ← readClock? clock
  return days * 86400 + clock

theorem readUnsigned?_unsignedChars (total : Nat) :
    readUnsigned? (unsignedChars total) = some total := by
  by_cases day : 86400 ≤ total
  · have absent : '.' ∉ Decimal.digits (total / 86400) := fun member =>
      nomatch Decimal.isDigits_digits _ '.' member
    have whole : total / 86400 * 86400 + total % 86400 = total := by omega
    unfold readUnsigned?
    rw [unsignedChars, if_pos day, splitOnce?_append absent]
    simp [readCount?_digits, readClock?_clockChars, whole]
  · have absent : '.' ∉ clockChars total := by
      intro member
      rcases mem_clockChars member with digit | colon
      · cases digit
      · cases colon
    have whole : total % 86400 = total := by omega
    unfold readUnsigned?
    rw [unsignedChars, if_neg day, splitOnce?_of_absent absent]
    simp [readClock?_clockChars, whole]

def ofSign? (negative : Bool) (total : Nat) : Option TimeSpan :=
  if total < twoTo 63 then ofSeconds? (if negative then -(total : Int) else total) else none

theorem readUnsigned?_bind (cs : List Char) (next : Nat → Option TimeSpan) :
    (readUnsigned? cs).bind next = (do
      let (days, clock) ← match splitOnce? '.' cs with
        | some (days, clock) => (readCount? days).map fun days => (days, clock)
        | none => some (0, cs)
      let clock ← readClock? clock
      next (days * 86400 + clock)) := by
  unfold readUnsigned?
  cases parts : splitOnce? '.' cs <;> simp [Option.bind_assoc]

theorem read?_dash (cs : List Char) :
    read? ('-' :: cs) = (readUnsigned? cs).bind (ofSign? true) := by
  rw [readUnsigned?_bind]
  rfl

theorem read?_of_isDigit (digit : c.isDigit = true) (cs : List Char) :
    read? (c :: cs) = (readUnsigned? (c :: cs)).bind (ofSign? false) := by
  rw [readUnsigned?_bind]
  unfold read?
  split
  rename_i sign
  split at sign
  · cases List.head_eq_of_cons_eq ‹c :: cs = _›
    cases digit
  · cases sign
    rfl

theorem ofSign?_eq (t : TimeSpan) {negative : Bool} {total : Nat}
    (signed : (if negative then -(total : Int) else total) = t.seconds)
    (fits : total < 9223372036854775808) : ofSign? negative total = some t := by
  have small : total < twoTo 63 := fits
  rw [ofSign?, if_pos small, signed]
  exact dif_pos ⟨t.lower, t.upper⟩

/-- A span is read from its own text if its sign can be taken off. -/
theorem read?_chars (symmetric : -9223372036854775808 < t.seconds) : read? t.chars = some t := by
  have upper := t.upper
  have read := readUnsigned?_unsignedChars t.seconds.natAbs
  rw [chars_eq]
  by_cases negative : t.seconds < 0
  · have signed : -(t.seconds.natAbs : Int) = t.seconds := by omega
    rw [if_pos negative, List.singleton_append, read?_dash, read, Option.bind_some]
    exact ofSign?_eq t signed (by omega)
  · have signed : (t.seconds.natAbs : Int) = t.seconds := by omega
    obtain ⟨first, others, text, digit⟩ := unsignedChars_cons t.seconds.natAbs
    rw [text] at read
    rw [if_neg negative, List.nil_append, text, read?_of_isDigit digit, read, Option.bind_some]
    exact ofSign?_eq t signed (by omega)

end TimeSpan

/-! ### Texts of other things -/

theorem Moment.not_isBlank_chars (m : Moment) : ∀ c ∈ m.chars, isBlank c = false := by
  intro c member
  rcases Moment.mem_chars member with digit | rfl | rfl | rfl
  · exact Decimal.not_isBlank_of_isDigit digit
  all_goals rfl

theorem Period.read?_chars {p : Period} (start : p.start.year ≤ -1000 ∨ 0 ≤ p.start.year)
    (finish : p.finish.year ≤ -1000 ∨ 0 ≤ p.finish.year) : Period.read? p.chars = some p := by
  have absent : '/' ∉ p.start.chars := by
    intro member
    rcases Moment.mem_chars member with digit | dash | colon | mark
    · cases digit
    · cases dash
    · cases colon
    · cases mark
  unfold Period.read? Period.chars
  rw [splitOnce?_append absent]
  simp only [Option.bind_eq_bind, Option.bind_some, trim_of_plain (Moment.not_isBlank_chars _),
    Moment.read?_chars start, Moment.read?_chars finish]
  exact dif_pos p.ordered

theorem Period.not_isBlank_chars (p : Period) : ∀ c ∈ p.chars, isBlank c = false := by
  intro c member
  rcases List.mem_append.mp member with start | rest
  · exact p.start.not_isBlank_chars c start
  · rcases List.mem_cons.mp rest with rfl | finish
    · rfl
    · exact p.finish.not_isBlank_chars c finish

theorem Period.chars_cons (p : Period) :
    ∃ first others, p.chars = first :: others ∧ (first.isDigit = true ∨ first = '-') := by
  obtain ⟨first, others, text, start⟩ := p.start.chars_cons
  exact ⟨first, _, by rw [Period.chars, text, List.cons_append], start⟩

theorem Moment.read?_periodChars (p : Period) : Moment.read? p.chars = none := by
  cases read : Moment.read? p.chars with
  | none => rfl
  | some m => exact absurd (List.mem_append_right _ List.mem_cons_self) (Moment.read?_eq_some read).2

namespace TimeSpan

theorem mem_chars {t : TimeSpan} {c : Char} (member : c ∈ t.chars) :
    c.isDigit = true ∨ c = ':' ∨ c = '.' ∨ c = '-' := by
  rw [chars_eq, List.mem_append] at member
  rcases member with sign | unsigned
  · split at sign
    · exact Or.inr (Or.inr (Or.inr (List.mem_singleton.mp sign)))
    · cases sign
  · rcases mem_unsignedChars unsigned with digit | rfl | rfl
    · exact Or.inl digit
    · exact Or.inr (Or.inl rfl)
    · exact Or.inr (Or.inr (Or.inl rfl))

theorem not_isBlank_chars (t : TimeSpan) : ∀ c ∈ t.chars, isBlank c = false := by
  intro c member
  rcases mem_chars member with digit | rfl | rfl | rfl
  · exact Decimal.not_isBlank_of_isDigit digit
  all_goals rfl

theorem chars_cons (t : TimeSpan) :
    ∃ first others, t.chars = first :: others ∧ (first.isDigit = true ∨ first = '-') := by
  rw [chars_eq]
  split
  · exact ⟨'-', _, rfl, Or.inr rfl⟩
  · obtain ⟨first, others, text, digit⟩ := unsignedChars_cons t.seconds.natAbs
    exact ⟨first, others, text, Or.inl digit⟩

theorem colon_mem_chars (t : TimeSpan) : ':' ∈ t.chars := by
  rw [chars_eq]
  exact List.mem_append_right _ colon_mem_unsignedChars

/-- The sign of a span stands in front of it. -/
theorem dash_not_mem_tail (t : TimeSpan) : '-' ∉ t.chars.tail := by
  have unsigned : '-' ∉ unsignedChars t.seconds.natAbs := by
    intro member
    rcases mem_unsignedChars member with digit | colon | point
    · cases digit
    · cases colon
    · cases point
  rw [chars_eq]
  split
  · exact unsigned
  · exact fun member => unsigned (List.mem_of_mem_tail member)

end TimeSpan

theorem Moment.read?_timeSpanChars (t : TimeSpan) : Moment.read? t.chars = none := by
  cases read : Moment.read? t.chars with
  | none => rfl
  | some m => exact absurd (Moment.read?_eq_some read).1 t.dash_not_mem_tail

theorem Period.read?_timeSpanChars (t : TimeSpan) : Period.read? t.chars = none := by
  have absent : '/' ∉ t.chars := by
    intro member
    rcases TimeSpan.mem_chars member with digit | colon | point | dash
    · cases digit
    · cases colon
    · cases point
    · cases dash
  unfold Period.read?
  rw [splitOnce?_of_absent absent]
  rfl

end Questionnaire
