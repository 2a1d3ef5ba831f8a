import Questionnaire.Proofs.Decimal.Notation

/-!
One normal form for each number.

Stripping zeros leaves a scale of zero or a last digit that is no zero, and no two such pairs of a
coefficient and a scale are worth the same: `stripZeros_unique`. So values that are the same answer have
the same text: `Value.toText_of_same`.
-/

namespace Questionnaire

namespace Decimal

variable {a b d : Decimal} {m n s t : Nat}

theorem stripZeros_reduced (coefficient scale : Nat) :
    (stripZeros coefficient scale).2 = 0 ∨ (stripZeros coefficient scale).1 % 10 ≠ 0 := by
  induction scale generalizing coefficient with
  | zero => exact .inl rfl
  | succ scale ih =>
    rw [stripZeros]
    split
    · exact ih _
    · rename_i last
      exact .inr last

/-- More places than another number of the same worth has end in a zero. -/
theorem scale_le_of_reduced (worth : m * tenTo t = n * tenTo s) (reduced : t = 0 ∨ n % 10 ≠ 0) :
    t ≤ s := by
  refine Nat.le_of_not_lt fun longer => ?_
  obtain ⟨more, rfl⟩ : ∃ more, t = s + (more + 1) := ⟨t - s - 1, by omega⟩
  have places : tenTo (s + (more + 1)) = tenTo more * 10 * tenTo s := by
    rw [Nat.mul_comm]
    exact Nat.pow_add 10 s (more + 1)
  rw [places, ← Nat.mul_assoc, ← Nat.mul_assoc] at worth
  have factor : m * tenTo more * 10 = n := Nat.eq_of_mul_eq_mul_right (tenTo_pos s) worth
  have divisible : n % 10 = 0 := factor ▸ Nat.mul_mod_left _ _
  exact reduced.elim (by omega) (absurd divisible)

theorem stripZeros_unique (worth : m * tenTo t = n * tenTo s) : stripZeros m s = stripZeros n t := by
  obtain ⟨m', s', stripped⟩ : ∃ m' s', stripZeros m s = (m', s') := ⟨_, _, rfl⟩
  obtain ⟨n', t', stripped'⟩ : ∃ n' t', stripZeros n t = (n', t') := ⟨_, _, rfl⟩
  have first := stripZeros_worth m s
  have second := stripZeros_worth n t
  have reduced := stripZeros_reduced m s
  have reduced' := stripZeros_reduced n t
  simp only [stripped, stripped'] at first second reduced reduced' ⊢
  have same : m' * tenTo t' = n' * tenTo s' := by
    refine Nat.eq_of_mul_eq_mul_right (Nat.mul_pos (tenTo_pos s) (tenTo_pos t)) ?_
    calc m' * tenTo t' * (tenTo s * tenTo t)
      _ = m' * tenTo s * (tenTo t' * tenTo t) := by ac_rfl
      _ = m * tenTo t * (tenTo s' * tenTo t') := by rw [first]; ac_rfl
      _ = n * tenTo t' * (tenTo s * tenTo s') := by rw [worth]; ac_rfl
      _ = n' * tenTo s' * (tenTo s * tenTo t) := by rw [← second]; ac_rfl
  have places : s' = t' :=
    Nat.le_antisymm (scale_le_of_reduced same.symm reduced) (scale_le_of_reduced same reduced')
  subst places
  rw [Nat.eq_of_mul_eq_mul_right (tenTo_pos s') same]

theorem natAbs_signed (d : Decimal) : d.signed.natAbs = d.coefficient := by
  unfold signed
  split <;> simp

theorem signed_neg (nonzero : d.coefficient ≠ 0) : d.signed < 0 ↔ d.negative = true := by
  unfold signed
  split
  · rename_i minus
    simp only [minus, iff_true]
    omega
  · rename_i plus
    have never : ¬(d.coefficient : Int) < 0 := by omega
    exact iff_of_false never plus

theorem normalize_eq_of_same (equal : a.same b = true) : a.normalize = b.normalize := by
  have worth : a.signed * tenTo b.scale = b.signed * tenTo a.scale := beq_iff_eq.mp equal
  have coefficients : a.coefficient * tenTo b.scale = b.coefficient * tenTo a.scale := by
    have sizes := congrArg Int.natAbs worth
    simpa only [Int.natAbs_mul, Int.natAbs_natCast, natAbs_signed] using sizes
  by_cases zero : a.coefficient = 0
  · rw [zero, Nat.zero_mul, eq_comm, Nat.mul_eq_zero] at coefficients
    have zero' : b.coefficient = 0 := coefficients.resolve_right (Nat.ne_of_gt (tenTo_pos _))
    rw [normalize, normalize, if_pos zero, if_pos zero']
  · have nonzero : b.coefficient ≠ 0 := by
      intro zero'
      rw [zero', Nat.zero_mul, Nat.mul_eq_zero] at coefficients
      exact coefficients.elim zero (Nat.ne_of_gt (tenTo_pos _))
    -- Both sides have the sign of the number, as powers of ten have none.
    have signs : a.negative = b.negative := by
      have one (n : Nat) : (tenTo n : Int).sign = 1 :=
        Int.sign_eq_one_of_pos (Int.natCast_pos.mpr (tenTo_pos n))
      have sign := congrArg Int.sign worth
      rw [Int.sign_mul, Int.sign_mul, one, one, Int.mul_one, Int.mul_one] at sign
      rw [Bool.eq_iff_iff, ← signed_neg zero, ← signed_neg nonzero, ← Int.sign_eq_neg_one_iff_neg, sign,
        Int.sign_eq_neg_one_iff_neg]
    simp only [normalize, if_neg zero, if_neg nonzero, signs, stripZeros_unique coefficients]

end Decimal

theorem Value.toText_of_same {v w : Value} (equal : v.same w = true) : v.toText = w.toText := by
  cases v with
  | number a =>
    cases w with
    | number b => exact congrArg Decimal.toText (Decimal.normalize_eq_of_same equal)
    | _ => cases equal
  | _ => rw [show _ = w from beq_iff_eq.mp equal]

end Questionnaire
