import Questionnaire.Proofs.Decimal.Digits
import Questionnaire.Proofs.Text.Cutting
import Questionnaire.Value.Inference

/-!
Decimals that are written and read again.

A decimal without the sign of a zero is read from its own text exactly as it is, places and all:
`read_chars`. The normal form of a decimal is the same number and its own normal form, so a number
that is written in normal form comes back as the same number.
-/

namespace Questionnaire.Decimal

open Text

variable {d : Decimal} {negative seen point : Bool} {coefficient scale n : Nat} {c : Char}
  {ds rest : List Char}

/-! ### Normal form -/

theorem stripZeros_worth (coefficient scale : Nat) :
    (stripZeros coefficient scale).1 * tenTo scale =
      coefficient * tenTo (stripZeros coefficient scale).2 := by
  induction scale generalizing coefficient with
  | zero => rfl
  | succ scale ih =>
    rw [stripZeros]
    split
    · rename_i divisible
      have whole : coefficient / 10 * 10 = coefficient :=
        Nat.div_mul_cancel (Nat.dvd_of_mod_eq_zero divisible)
      calc (stripZeros (coefficient / 10) scale).1 * tenTo (scale + 1)
        _ = (stripZeros (coefficient / 10) scale).1 * tenTo scale * 10 := by
          rw [tenTo_succ, Nat.mul_assoc]
        _ = coefficient / 10 * 10 * tenTo (stripZeros (coefficient / 10) scale).2 := by
          rw [ih, Nat.mul_right_comm]
        _ = coefficient * tenTo (stripZeros (coefficient / 10) scale).2 := by rw [whole]
    · rfl

theorem stripZeros_stripZeros (coefficient scale : Nat) :
    stripZeros (stripZeros coefficient scale).1 (stripZeros coefficient scale).2 =
      stripZeros coefficient scale := by
  induction scale generalizing coefficient with
  | zero => rfl
  | succ scale ih =>
    by_cases divisible : coefficient % 10 = 0
    · rw [stripZeros, if_pos divisible]
      exact ih (coefficient / 10)
    · have stripped : stripZeros coefficient (scale + 1) = (coefficient, scale + 1) := by
        rw [stripZeros, if_neg divisible]
      rw [stripped, stripped]

theorem stripZeros_ne_zero (nonzero : coefficient ≠ 0) :
    (stripZeros coefficient scale).1 ≠ 0 := by
  intro zero
  have worth := stripZeros_worth coefficient scale
  rw [zero, Nat.zero_mul, eq_comm, Nat.mul_eq_zero] at worth
  exact worth.elim nonzero (Nat.pos_iff_ne_zero.mp (tenTo_pos _))

/-- The sign of a number that is not zero. -/
def IsPlain (d : Decimal) : Prop := d.negative = true → d.coefficient ≠ 0

theorem normalize_isPlain (d : Decimal) : d.normalize.IsPlain := by
  unfold normalize
  split
  · intro minus
    cases minus
  · rename_i nonzero
    intro _
    exact stripZeros_ne_zero nonzero

theorem same_normalize (d : Decimal) : d.same d.normalize = true := by
  unfold normalize
  split
  · rename_i zero
    simp [same, signed, zero, Decimal.zero]
  · have worth : ((stripZeros d.coefficient d.scale).1 : Int) * tenTo d.scale =
        d.coefficient * tenTo (stripZeros d.coefficient d.scale).2 :=
      mod_cast stripZeros_worth d.coefficient d.scale
    rw [same, beq_iff_eq, signed, signed]
    split
    · rw [Int.neg_mul, Int.neg_mul, worth]
    · exact worth.symm

theorem normalize_normalize (d : Decimal) : d.normalize.normalize = d.normalize := by
  by_cases zero : d.coefficient = 0
  · have plain : d.normalize = Decimal.zero := by rw [normalize, if_pos zero]
    rw [plain]
    rfl
  · have nonzero : (stripZeros d.coefficient d.scale).1 ≠ 0 := stripZeros_ne_zero zero
    simp only [normalize, zero, if_false, nonzero, stripZeros_stripZeros]

/-! ### Writing -/

theorem placePoint_zero (n : Nat) : placePoint (digits n) 0 = digits n :=
  Calendar.padded_one

theorem placePoint_succ (n scale : Nat) :
    ∃ whole fraction, placePoint (digits n) (scale + 1) = whole ++ '.' :: fraction ∧
      IsDigits whole ∧ IsDigits fraction ∧ whole ≠ [] ∧ fraction.length = scale + 1 ∧
      Nat.ofDigitChars 10 fraction (Nat.ofDigitChars 10 whole 0) = n := by
  let all := Calendar.padded (scale + 2) n
  have long : scale + 2 ≤ all.length := Calendar.le_length_padded
  have isDigits : IsDigits all := Calendar.isDigits_padded _ _
  refine ⟨all.take (all.length - (scale + 1)), all.drop (all.length - (scale + 1)), rfl,
    fun c member => isDigits c (List.mem_of_mem_take member),
    fun c member => isDigits c (List.mem_of_mem_drop member), ?_, ?_, ?_⟩
  · rw [ne_eq, List.take_eq_nil_iff]
    rintro (short | empty)
    · omega
    · rw [empty, List.length_nil] at long
      omega
  · rw [List.length_drop]
    omega
  · rw [← Nat.ofDigitChars_append, List.take_append_drop]
    exact Calendar.ofDigitChars_padded

/-! ### Reading digits -/

theorem exactly_isPlain (isPlain : d.IsPlain) :
    exactly d.negative d.coefficient d.scale = .ok d := by
  have sign : (d.negative && d.coefficient != 0) = d.negative := by
    cases minus : d.negative with
    | false => rfl
    | true => simpa using isPlain minus
  simp only [exactly, ofParts?, dif_pos (And.intro d.coefficient_lt d.scale_le), sign]

/-- Digits that fit are read up to the character after them. -/
theorem readDigits_append (isDigits : IsDigits ds)
    (fits : Nat.ofDigitChars 10 ds coefficient < limit) (given : ds ≠ []) :
    readDigits negative (ds ++ c :: rest) seen false coefficient scale =
      readDigits negative (c :: rest) true false (Nat.ofDigitChars 10 ds coefficient) 0 := by
  induction ds generalizing seen coefficient scale with
  | nil => exact absurd rfl given
  | cons first ds ih =>
    obtain ⟨digit, isDigits⟩ := List.forall_mem_cons.mp isDigits
    rw [Nat.ofDigitChars_cons, Nat.mul_comm 10] at fits ⊢
    have small : coefficient * 10 + (first.toNat - 48) < limit :=
      Nat.lt_of_le_of_lt le_ofDigitChars fits
    rw [List.cons_append, readDigits, digit?_of_isDigit digit]
    simp only
    rw [if_neg (Nat.not_le.mpr small)]
    cases ds with
    | nil => rfl
    | cons second ds => exact ih isDigits fits (List.cons_ne_nil _ _)

/-- Digits that fit and end the text are the digits of what is read. -/
theorem readDigits_of_isDigits (isDigits : IsDigits ds)
    (fits : Nat.ofDigitChars 10 ds coefficient < limit)
    (places : point = true → scale + ds.length ≤ maxScale) (given : ds ≠ []) :
    readDigits negative ds seen point coefficient scale =
      exactly negative (Nat.ofDigitChars 10 ds coefficient)
        (if point then scale + ds.length else 0) := by
  induction ds generalizing seen coefficient scale with
  | nil => exact absurd rfl given
  | cons first ds ih =>
    obtain ⟨digit, isDigits⟩ := List.forall_mem_cons.mp isDigits
    rw [Nat.ofDigitChars_cons, Nat.mul_comm 10] at fits ⊢
    have small : coefficient * 10 + (first.toNat - 48) < limit :=
      Nat.lt_of_le_of_lt le_ofDigitChars fits
    rw [readDigits, digit?_of_isDigit digit]
    simp only
    rw [if_neg (Nat.not_le.mpr small)]
    cases ds with
    | nil => rfl
    | cons second ds =>
      have more : (point && decide (maxScale ≤ if point then scale + 1 else 0)) = false := by
        cases point with
        | false => rfl
        | true =>
          have enough := places rfl
          simp only [List.length_cons] at enough
          simp
          omega
      simp only [more, Bool.false_eq_true, if_false]
      refine (ih isDigits fits ?_ (List.cons_ne_nil _ _)).trans ?_
      · intro isPoint
        have enough := places isPoint
        simp only [isPoint, if_true, List.length_cons] at enough ⊢
        omega
      · cases point with
        | false => rfl
        | true =>
          simp only [if_true, List.length_cons]
          congr 1
          omega

theorem readDigits_dash (isDigits : IsDigits ds) (fits : Nat.ofDigitChars 10 ds 0 < limit)
    (given : ds ≠ []) :
    (readDigits negative (ds ++ '-' :: rest) false false 0 0).toOption = none := by
  rw [readDigits_append isDigits fits given]
  rfl

theorem readDigits_placePoint (isPlain : d.IsPlain) :
    readDigits d.negative (placePoint (digits d.coefficient) d.scale) false false 0 0 = .ok d := by
  cases places : d.scale with
  | zero =>
    have fits : Nat.ofDigitChars 10 (digits d.coefficient) 0 < limit := by
      rw [ofDigitChars_digits]
      exact d.coefficient_lt
    rw [placePoint_zero, readDigits_of_isDigits (isDigits_digits _) fits (by simp) digits_ne_nil,
      ofDigitChars_digits, if_neg Bool.false_ne_true, ← places]
    exact exactly_isPlain isPlain
  | succ scale =>
    obtain ⟨whole, fraction, text, left, right, given, length, worth⟩ :=
      placePoint_succ d.coefficient scale
    have fits : Nat.ofDigitChars 10 fraction (Nat.ofDigitChars 10 whole 0) < limit := by
      rw [worth]
      exact d.coefficient_lt
    have bound : 0 + fraction.length ≤ maxScale := by
      have := d.scale_le
      omega
    have more : fraction ≠ [] := by
      rintro rfl
      cases length
    rw [text, readDigits_append left (Nat.lt_of_le_of_lt le_ofDigitChars fits) given]
    change readDigits d.negative fraction true true (Nat.ofDigitChars 10 whole 0) 0 = .ok d
    rw [readDigits_of_isDigits right fits (fun _ => bound) more, worth, if_pos rfl, length,
      Nat.zero_add, ← places]
    exact exactly_isPlain isPlain

/-! ### Signs -/

theorem exactly_positive (h : exactly false coefficient scale = .ok d) : d.negative = false := by
  unfold exactly ofParts? at h
  split at h
  · rename_i found
    split at found <;> cases found
    cases h
    rfl
  · cases h

theorem roundAt_positive (h : roundAt false coefficient scale c = .ok d) : d.negative = false := by
  unfold roundAt at h
  split at h
  · split at h
    · exact exactly_positive h
    · cases h
  · split at h
    · exact exactly_positive h
    · split at h
      · exact exactly_positive h
      · split at h
        · cases h
        · exact exactly_positive h

theorem readDigits_positive (h : readDigits false ds seen point coefficient scale = .ok d) :
    d.negative = false := by
  fun_induction readDigits false ds seen point coefficient scale <;> first
    | cases h
    | exact exactly_positive h
    | exact roundAt_positive h
    | exact ‹_ → d.negative = false› h

/-! ### Reading texts -/

theorem isDigit_or_point (member : c ∈ placePoint (digits n) scale) :
    c.isDigit = true ∨ c = '.' := by
  cases scale with
  | zero =>
    rw [placePoint_zero] at member
    exact Or.inl (isDigits_digits n c member)
  | succ scale =>
    obtain ⟨whole, fraction, text, left, right, _⟩ := placePoint_succ n scale
    rw [text, List.mem_append, List.mem_cons] at member
    rcases member with before | rfl | after
    · exact Or.inl (left c before)
    · exact Or.inr rfl
    · exact Or.inl (right c after)

theorem mem_chars (member : c ∈ d.chars) : c.isDigit = true ∨ c = '.' ∨ c = '-' := by
  rcases List.mem_append.mp member with sign | number
  · split at sign
    · exact Or.inr (Or.inr (List.mem_singleton.mp sign))
    · cases sign
  · rcases isDigit_or_point number with digit | rfl
    · exact Or.inl digit
    · exact Or.inr (Or.inl rfl)

theorem not_isBlank_of_isDigit (digit : c.isDigit = true) : isBlank c = false := by
  have range : 48 ≤ c.toNat ∧ c.toNat ≤ 57 := Char.isDigit_iff_toNat.mp digit
  simp [isBlank]
  omega

theorem not_isBlank_chars (d : Decimal) : ∀ c ∈ d.chars, isBlank c = false := by
  intro c member
  rcases mem_chars member with digit | rfl | rfl
  · exact not_isBlank_of_isDigit digit
  all_goals rfl

theorem placePoint_cons (n scale : Nat) :
    ∃ first others, placePoint (digits n) scale = first :: others ∧ first.isDigit = true := by
  cases scale with
  | zero =>
    obtain ⟨first, others, text⟩ := List.exists_cons_of_ne_nil (digits_ne_nil (n := n))
    refine ⟨first, others, by rw [placePoint_zero, text], ?_⟩
    exact isDigits_digits n first (text ▸ List.mem_cons_self)
  | succ scale =>
    obtain ⟨whole, fraction, text, left, _, given, _⟩ := placePoint_succ n scale
    obtain ⟨first, others, rfl⟩ := List.exists_cons_of_ne_nil given
    exact ⟨first, others ++ '.' :: fraction, text, left first List.mem_cons_self⟩

theorem chars_cons (d : Decimal) :
    ∃ first others, d.chars = first :: others ∧ (first.isDigit = true ∨ first = '-') := by
  cases minus : d.negative with
  | true => exact ⟨'-', _, by rw [chars, minus]; rfl, Or.inr rfl⟩
  | false =>
    obtain ⟨first, others, text, digit⟩ := placePoint_cons d.coefficient d.scale
    exact ⟨first, others, by rw [chars, minus, text]; rfl, Or.inl digit⟩

theorem readPlain_cons (digit : c.isDigit = true) :
    readPlain (c :: rest) = readDigits false (c :: rest) false false 0 0 := by
  unfold readPlain
  split
  · cases ‹c :: rest = []›
  · cases List.head_eq_of_cons_eq ‹_›
    cases digit
  · cases List.head_eq_of_cons_eq ‹_›
    cases digit
  · rfl

theorem splitExponent?_of_absent {cs : List Char} (absent : ∀ c ∈ cs, c ≠ 'e' ∧ c ≠ 'E') :
    splitExponent? cs = none := by
  induction cs with
  | nil => rfl
  | cons c cs ih =>
    rw [List.forall_mem_cons] at absent
    rw [splitExponent?, if_neg (not_or.mpr absent.1), ih absent.2]
    rfl

theorem read_of_plain {cs : List Char} (plain : ∀ c ∈ cs, c.isDigit = true ∨ c = '.' ∨ c = '-') :
    read cs = readPlain cs := by
  have absent : splitExponent? cs = none := by
    refine splitExponent?_of_absent fun c member => ?_
    rcases plain c member with digit | rfl | rfl
    · constructor <;> rintro rfl <;> cases digit
    · decide
    · decide
  simp only [read, absent]

/-- A decimal is read from its own text. -/
theorem read_chars (isPlain : d.IsPlain) : read d.chars = .ok d := by
  have digits := readDigits_placePoint isPlain
  rw [read_of_plain fun c member => mem_chars member]
  cases minus : d.negative with
  | true =>
    rw [minus] at digits
    rw [chars, minus]
    exact digits
  | false =>
    obtain ⟨first, others, text, digit⟩ := placePoint_cons d.coefficient d.scale
    rw [minus, text] at digits
    rw [chars, minus, text]
    exact (readPlain_cons digit).trans digits

/-! ### Reading answers -/

variable {cs : List Char} {first : Char}

/-- A text of digits, points and signs is read as a decimal. -/
theorem readPlainText?_of_plain (start : first.isDigit = true ∨ first = '-')
    (plain : ∀ c ∈ first :: rest, c.isDigit = true ∨ c = '.' ∨ c = '-') :
    readPlainText? (first :: rest) = (read (first :: rest)).toOption := by
  have blanks : ∀ c ∈ first :: rest, isBlank c = false := by
    intro c member
    rcases plain c member with digit | rfl | rfl
    · exact not_isBlank_of_isDigit digit
    · rfl
    · rfl
  have starts : (first.isDigit || first == '-' || first == '+' || first == '.') = true := by
    rcases start with digit | rfl
    · simp [digit]
    · rfl
  have all : ((first :: rest).all fun c =>
      c.isDigit || c == '-' || c == '+' || c == '.' || c == ',') = true := by
    rw [List.all_eq_true]
    intro c member
    rcases plain c member with digit | rfl | rfl
    · simp [digit]
    · rfl
    · rfl
  have comma : (first :: rest).contains ',' = false := by
    rw [Bool.eq_false_iff, ne_eq, List.contains_iff_mem]
    intro member
    rcases plain ',' member with digit | point | dash
    · cases digit
    · cases point
    · cases dash
  unfold readPlainText?
  rw [trim_of_plain blanks]
  simp only [starts, all, comma, Bool.not_true, Bool.false_eq_true, if_false, Bool.false_and]
  split
  · cases List.head_eq_of_cons_eq ‹_›
    rcases start with digit | dash
    · cases digit
    · cases dash
  · rfl

theorem readPlainText?_of_other (blanks : ∀ c ∈ cs, isBlank c = false)
    (other : ∃ c ∈ cs, c = ':' ∨ c = '/') : readPlainText? cs = none := by
  obtain ⟨c, member, other⟩ := other
  unfold readPlainText?
  rw [trim_of_plain blanks]
  cases cs with
  | nil => cases member
  | cons first cs =>
    have some : ((first :: cs).all fun c =>
        c.isDigit || c == '-' || c == '+' || c == '.' || c == ',') = false := by
      refine List.all_eq_false.mpr ⟨c, member, ?_⟩
      rcases other with rfl | rfl <;> decide
    simp only [some]
    split <;> rfl

theorem readPlainText?_chars (isPlain : d.IsPlain) : readPlainText? d.chars = some d := by
  obtain ⟨first, others, text, start⟩ := chars_cons d
  have plain : ∀ c ∈ first :: others, c.isDigit = true ∨ c = '.' ∨ c = '-' := by
    intro c member
    exact mem_chars (text ▸ member)
  rw [text, readPlainText?_of_plain start plain, ← text, read_chars isPlain]
  rfl

theorem readPlainText?_dash (isDigits : IsDigits ds) (given : ds ≠ [])
    (fits : Nat.ofDigitChars 10 ds 0 < limit)
    (plain : ∀ c ∈ rest, c.isDigit = true ∨ c = '.' ∨ c = '-') :
    readPlainText? (ds ++ '-' :: rest) = none ∧
      readPlainText? ('-' :: (ds ++ '-' :: rest)) = none := by
  have all : ∀ c ∈ ds ++ '-' :: rest, c.isDigit = true ∨ c = '.' ∨ c = '-' := by
    intro c member
    rcases List.mem_append.mp member with digit | tail
    · exact Or.inl (isDigits c digit)
    · rcases List.mem_cons.mp tail with dash | later
      · exact Or.inr (Or.inr dash)
      · exact plain c later
  have signed : ∀ c ∈ '-' :: (ds ++ '-' :: rest), c.isDigit = true ∨ c = '.' ∨ c = '-' :=
    List.forall_mem_cons.mpr ⟨by decide, all⟩
  constructor
  · obtain ⟨first, others, rfl⟩ := List.exists_cons_of_ne_nil given
    have digit := isDigits first List.mem_cons_self
    rw [List.cons_append] at all ⊢
    rw [readPlainText?_of_plain (Or.inl digit) all, read_of_plain all, readPlain_cons digit]
    exact readDigits_dash isDigits fits given
  · rw [readPlainText?_of_plain (Or.inr rfl) signed, read_of_plain signed]
    exact readDigits_dash isDigits fits given

end Questionnaire.Decimal
