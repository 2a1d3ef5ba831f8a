import Questionnaire.Calendar.Text

/-!
Numbers written in digits.

Zeros in front of a number leave it the number that it is, so reading the digits that a number is
written in gives that number, however wide it is written: `readFixed?_padded`, `readCount?_digits`.
-/

namespace Questionnaire

def Text.IsDigits (cs : List Char) : Prop := ∀ c ∈ cs, c.isDigit = true

open Text

variable {ds rest : List Char} {c : Char} {value width n : Nat}

namespace Decimal

theorem digit?_of_isDigit (h : c.isDigit = true) : digit? c = some (c.toNat - 48) := by
  rw [Char.isDigit_iff_toNat] at h
  unfold digit?
  rw [if_pos ⟨h.1, h.2⟩]

theorem isDigits_digits (n : Nat) : IsDigits (digits n) := fun _ member =>
  Nat.isDigit_of_mem_toDigits (by decide) (by decide) member

theorem digits_ne_nil : digits n ≠ [] := Nat.toDigits_ne_nil

@[simp] theorem ofDigitChars_digits : Nat.ofDigitChars 10 (digits n) 0 = n :=
  Nat.ofDigitChars_ten_toDigits

theorem le_ofDigitChars : value ≤ Nat.ofDigitChars 10 ds value := by
  rw [Nat.ofDigitChars_eq_ofDigitChars_zero]
  have grows : 1 * value ≤ 10 ^ ds.length * value :=
    Nat.mul_le_mul_right _ (Nat.one_le_pow _ _ (by decide))
  omega

end Decimal

namespace Calendar

open Decimal

theorem isDigits_padded (width n : Nat) : IsDigits (padded width n) := by
  intro c member
  rcases List.mem_append.mp member with zero | digit
  · rw [List.eq_of_mem_replicate zero]
    rfl
  · exact isDigits_digits n c digit

theorem padded_ne_nil (width n : Nat) : padded width n ≠ [] := by
  simp [padded, digits_ne_nil]

theorem le_length_padded : width ≤ (padded width n).length := by
  simp only [padded, List.length_append, List.length_replicate]
  omega

theorem length_padded (positive : 0 < width) (fits : n < tenTo width) :
    (padded width n).length = width := by
  have short : (digits n).length ≤ width :=
    (Nat.length_toDigits_le_iff (by decide) positive).mpr fits
  simp only [padded, List.length_append, List.length_replicate]
  omega

@[simp] theorem ofDigitChars_padded : Nat.ofDigitChars 10 (padded width n) 0 = n := by
  simp [padded, Nat.ofDigitChars_append]

theorem padded_of_le (long : width ≤ (digits n).length) : padded width n = digits n := by
  rw [padded, Nat.sub_eq_zero_of_le long, List.replicate_zero, List.nil_append]

theorem padded_one : padded 1 n = digits n := padded_of_le Nat.length_toDigits_pos

theorem lt_length_digits (positive : 0 < width) (large : tenTo width ≤ n) :
    width < (digits n).length := by
  rw [← Nat.not_le, digits, Nat.length_toDigits_le_iff (by decide) positive]
  exact Nat.not_lt.mpr large

/-! ### Reading -/

theorem readFixed?_append (isDigits : IsDigits ds) :
    readFixed? ds.length value (ds ++ rest) = some (Nat.ofDigitChars 10 ds value, rest) := by
  induction ds generalizing value with
  | nil => rfl
  | cons c ds ih =>
    obtain ⟨digit, isDigits⟩ := List.forall_mem_cons.mp isDigits
    rw [List.length_cons, List.cons_append, readFixed?, digit?_of_isDigit digit]
    simp only [ih isDigits, Nat.ofDigitChars_cons, Nat.mul_comm 10]
    rfl

theorem readFixed?_padded (positive : 0 < width) (fits : n < tenTo width) :
    readFixed? width 0 (padded width n ++ rest) = some (n, rest) := by
  have read : readFixed? (padded width n).length 0 (padded width n ++ rest) = _ :=
    readFixed?_append (isDigits_padded width n)
  rwa [length_padded positive fits, ofDigitChars_padded] at read

end Calendar

namespace TimeSpan

open Decimal

theorem foldlM_digit? (isDigits : IsDigits ds) :
    ds.foldlM (fun n c => (digit? c).map (n * 10 + ·)) value =
      some (Nat.ofDigitChars 10 ds value) := by
  induction ds generalizing value with
  | nil => rfl
  | cons c ds ih =>
    obtain ⟨digit, isDigits⟩ := List.forall_mem_cons.mp isDigits
    rw [List.foldlM_cons, digit?_of_isDigit digit, Nat.ofDigitChars_cons, Nat.mul_comm 10]
    exact ih isDigits

theorem readCount?_of_isDigits (isDigits : IsDigits ds) (given : ds ≠ []) :
    readCount? ds = some (Nat.ofDigitChars 10 ds 0) := by
  rw [readCount?, if_neg (by simpa using given), foldlM_digit? isDigits]

theorem readCount?_digits : readCount? (digits n) = some n := by
  rw [readCount?_of_isDigits (isDigits_digits n) digits_ne_nil, ofDigitChars_digits]

theorem readPart?_padded (fits : n < 100) : readPart? (Calendar.padded 2 n) = some n := by
  have two : (Calendar.padded 2 n).length = 2 := Calendar.length_padded (by decide) fits
  rw [readPart?, if_pos (Nat.le_of_eq two),
    readCount?_of_isDigits (Calendar.isDigits_padded 2 n) (Calendar.padded_ne_nil 2 n),
    Calendar.ofDigitChars_padded]

end TimeSpan

end Questionnaire
