import Questionnaire.Proofs.Calendar.Notation
import Questionnaire.Proofs.Value.Reading

/-!
Values that are read from their own texts.

Every value that is more than a text is read from its text as the value that it is, a number as the
same number: the readers that are tried before its own refuse the text. `ofText_toText` says so.
-/

namespace Questionnaire

open Calendar

namespace Decimal

/-- A moment is no number, although a date holds nothing but digits and signs. -/
theorem readPlainText?_moment (m : Moment) : readPlainText? m.chars = none := by
  obtain ⟨lower, upper, _⟩ := m.valid
  cases midnight : m.isMidnight with
  | true =>
    have plain : ∀ c ∈ padded 2 m.month ++ '-' :: (padded 2 m.day ++ []),
        c.isDigit = true ∨ c = '.' ∨ c = '-' := by
      intro c member
      simp only [List.mem_append, List.mem_cons, List.not_mem_nil, or_false] at member
      rcases member with month | dash | day
      · exact Or.inl (isDigits_padded _ _ c month)
      · exact Or.inr (Or.inr dash)
      · exact Or.inl (isDigits_padded _ _ c day)
    have small {width : Nat} : Nat.ofDigitChars 10 (padded width m.year.natAbs) 0 < limit := by
      have year : m.year.natAbs ≤ 9999 := by omega
      rw [ofDigitChars_padded]
      exact Nat.lt_of_le_of_lt year (by decide)
    rw [m.chars_eq, midnight, if_pos rfl, yearChars]
    split
    · exact (readPlainText?_dash (isDigits_padded _ _) (padded_ne_nil _ _) small plain).2
    · exact (readPlainText?_dash (isDigits_padded _ _) (padded_ne_nil _ _) small plain).1
  | false =>
    refine readPlainText?_of_other m.not_isBlank_chars ⟨':', ?_, Or.inl rfl⟩
    rw [m.chars_eq, midnight]
    simp

theorem readPlainText?_period (p : Period) : readPlainText? p.chars = none :=
  readPlainText?_of_other p.not_isBlank_chars
    ⟨'/', List.mem_append_right _ List.mem_cons_self, Or.inr rfl⟩

theorem readPlainText?_timeSpan (t : TimeSpan) : readPlainText? t.chars = none :=
  readPlainText?_of_other t.not_isBlank_chars ⟨':', t.colon_mem_chars, Or.inl rfl⟩

end Decimal

namespace Value

variable {v : Value} {cs : List Char}

/-- A value whose text shows all of it: years have four digits beside their sign, and a span has as
many seconds as its opposite. -/
def Writable : Value → Prop
  | moment m => m.year ≤ -1000 ∨ 0 ≤ m.year
  | timeSpan t => -9223372036854775808 < t.seconds
  | period p =>
    (p.start.year ≤ -1000 ∨ 0 ≤ p.start.year) ∧ (p.finish.year ≤ -1000 ∨ 0 ≤ p.finish.year)
  | _ => True

instance : (v : Value) → Decidable v.Writable
  | moment m => inferInstanceAs (Decidable (m.year ≤ -1000 ∨ 0 ≤ m.year))
  | timeSpan t => inferInstanceAs (Decidable (-9223372036854775808 < t.seconds))
  | period p => inferInstanceAs (Decidable ((p.start.year ≤ -1000 ∨ 0 ≤ p.start.year) ∧
      (p.finish.year ≤ -1000 ∨ 0 ≤ p.finish.year)))
  | boolean _ => .isTrue trivial
  | number _ => .isTrue trivial
  | text _ => .isTrue trivial
  | list .. => .isTrue trivial
  | unknown => .isTrue trivial

def normalize : Value → Value
  | number d => number d.normalize
  | v => v

@[simp] theorem normalize_type (v : Value) : v.normalize.type = v.type := by
  cases v <;> rfl

@[simp] theorem normalize_items (v : Value) : v.normalize.items = v.items := by
  cases v <;> rfl

@[simp] theorem normalize_toText (v : Value) : v.normalize.toText = v.toText := by
  cases v with
  | number d => exact congrArg Decimal.toText d.normalize_normalize
  | _ => rfl

theorem same_normalize (v : Value) : v.same v.normalize = true := by
  cases v with
  | number d => exact d.same_normalize
  | _ => exact same_refl _

/-! ### Words -/

theorem toLower_of_isDigit {c : Char} (digit : c.isDigit = true) : c.toLower = c := by
  have range : 48 ≤ c.toNat ∧ c.toNat ≤ 57 := Char.isDigit_iff_toNat.mp digit
  unfold Char.toLower
  rw [dif_neg]
  rintro ⟨upper, _⟩
  have : 65 ≤ c.toNat := upper
  omega

/-- What starts with a digit or a sign is no truth word. -/
theorem readBoolean?_of_start
    (starts : ∃ first others, cs = first :: others ∧ (first.isDigit = true ∨ first = '-')) :
    readBoolean? cs = none := by
  obtain ⟨first, others, rfl, start⟩ := starts
  let letters := ['j', 't', 'y', 'n', 'f']
  have noLetter : letters.contains first.toLower = false := by
    rcases start with digit | rfl
    · rw [toLower_of_isDigit digit, Bool.eq_false_iff, ne_eq, List.contains_iff_mem]
      intro member
      simp only [letters, List.mem_cons, List.not_mem_nil, or_false] at member
      rcases member with rfl | rfl | rfl | rfl | rfl <;> cases digit
    · rfl
  have noWord (words : List String)
      (starts : words.all (fun w => w.toList.head?.any letters.contains) = true) :
      words.contains (String.ofList ((first :: others).map Char.toLower)) = false := by
    rw [Bool.eq_false_iff, ne_eq, List.contains_iff_mem]
    intro member
    have letter := List.all_eq_true.mp starts _ member
    rw [String.toList_ofList] at letter
    exact Bool.false_ne_true (noLetter.symm.trans letter)
  have yes := noWord trueWords (by decide)
  have no := noWord falseWords (by decide)
  simp only [readBoolean?, yes, no, Bool.false_eq_true, if_false]

/-! ### Texts of values -/

theorem read?_number {d : Decimal} (isPlain : d.IsPlain) : read? d.chars = some (number d) := by
  simp [read?, readBoolean?_of_start d.chars_cons, Decimal.readPlainText?_chars isPlain]

theorem read?_moment {m : Moment} (writable : (moment m).Writable) :
    read? m.chars = some (moment m) := by
  simp [read?, readBoolean?_of_start m.chars_cons, Decimal.readPlainText?_moment,
    Moment.read?_chars writable]

theorem read?_period {p : Period} (writable : (period p).Writable) :
    read? p.chars = some (period p) := by
  simp [read?, readBoolean?_of_start p.chars_cons, Decimal.readPlainText?_period,
    Moment.read?_periodChars, Period.read?_chars writable.1 writable.2]

theorem read?_timeSpan {t : TimeSpan} (writable : (timeSpan t).Writable) :
    read? t.chars = some (timeSpan t) := by
  simp [read?, readBoolean?_of_start t.chars_cons, Decimal.readPlainText?_timeSpan,
    Moment.read?_timeSpanChars, Period.read?_timeSpanChars, TimeSpan.read?_chars writable]

theorem ofText_ofList (blanks : ∀ c ∈ cs, Text.isBlank c = false) (read : read? cs = some v) :
    ofText (String.ofList cs) = v := by
  rw [ofText, String.toList_ofList, Text.trim_of_plain blanks, read]
  rfl

/-- A value that is more than a text is read from its text. -/
theorem ofText_toText (writable : v.Writable)
    (more : v.type ≠ .text ∧ v.type ≠ .list ∧ v.type ≠ .unknown) :
    ofText v.toText = v.normalize := by
  cases v with
  | boolean b => cases b <;> decide
  | number d =>
    have blanks : ∀ c ∈ d.normalize.chars, Text.isBlank c = false := d.normalize.not_isBlank_chars
    exact ofText_ofList blanks (read?_number d.normalize_isPlain)
  | moment m => exact ofText_ofList m.not_isBlank_chars (read?_moment writable)
  | timeSpan t => exact ofText_ofList t.not_isBlank_chars (read?_timeSpan writable)
  | period p => exact ofText_ofList p.not_isBlank_chars (read?_period writable)
  | text s => exact absurd rfl more.1
  | list first others => exact absurd rfl more.2.1
  | unknown => exact absurd rfl more.2.2

end Value

end Questionnaire
