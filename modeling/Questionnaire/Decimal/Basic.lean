import Questionnaire.Power

/-!
Exact decimal numbers.

A decimal is a signed whole coefficient below `2 ^ 96` over a power of ten between `10 ^ 0` and
`10 ^ 28`. The scale is part of the value: `1.50` and `1.5` are the same number but two decimals,
and arithmetic keeps the places its operands were written with. `Decimal.same` compares numbers.

`ofScaled?` is the one way from an exact result to a decimal: it drops as few places as are needed
for the coefficient to fit, rounding half to even.
-/

namespace Questionnaire

/-- The coefficient of a decimal is below this. -/
abbrev Decimal.limit : Nat := 79228162514264337593543950336

abbrev Decimal.maxScale : Nat := 28

/-- The number `± coefficient / 10 ^ scale`. -/
structure Decimal where
  negative : Bool
  coefficient : Nat
  scale : Nat
  coefficient_lt : coefficient < Decimal.limit
  scale_le : scale ≤ Decimal.maxScale
deriving DecidableEq

namespace Decimal

instance : Inhabited Decimal := ⟨⟨false, 0, 0, by decide, by decide⟩⟩

def zero : Decimal := ⟨false, 0, 0, by decide, by decide⟩

def isZero (d : Decimal) : Bool := d.coefficient == 0

def signed (d : Decimal) : Int := if d.negative then -(d.coefficient : Int) else d.coefficient

/-- The decimal of these parts, when they fit as they are. A zero has no sign. -/
def ofParts? (negative : Bool) (coefficient scale : Nat) : Option Decimal :=
  if h : coefficient < limit ∧ scale ≤ maxScale then
    some ⟨negative && coefficient != 0, coefficient, scale, h.1, h.2⟩
  else none

def ofInt? (n : Int) : Option Decimal :=
  if h : n.natAbs < limit then some ⟨decide (n < 0), n.natAbs, 0, h, by decide⟩ else none

/-- The number with the other sign; zero keeps its places and takes the sign too. -/
def neg (d : Decimal) : Decimal := { d with negative := !d.negative }

def abs (d : Decimal) : Decimal := { d with negative := false }

def compare (a b : Decimal) : Ordering :=
  Ord.compare (a.signed * tenTo b.scale) (b.signed * tenTo a.scale)

def same (a b : Decimal) : Bool := a.signed * tenTo b.scale == b.signed * tenTo a.scale

/-! ### Rounding -/

/-- The quotient rounded to the nearest whole number, a half to the even one. -/
def roundHalfEven (n d : Nat) : Nat :=
  let q := n / d
  let r := n % d
  if 2 * r < d then q
  else if d < 2 * r then q + 1
  else if q % 2 = 0 then q else q + 1

/-- How many of the last digits have to go for the rest to fit a coefficient; nothing if more than
`available` would have to go. -/
def digitsToDrop? (coefficient : Nat) : Nat → Option Nat
  | 0 => if coefficient < limit then some 0 else none
  | available + 1 =>
    if coefficient < limit then some 0
    else (digitsToDrop? (coefficient / 10) available).map (· + 1)

/-- The nearest decimal to `± coefficient / 10 ^ scale` that keeps as many places as fit. A zero has
no sign. -/
def ofScaled? (negative : Bool) (coefficient scale : Nat) : Option Decimal :=
  match digitsToDrop? coefficient scale with
  | none => none
  | some needed =>
    let drop := max needed (scale - maxScale)
    let rounded := roundHalfEven coefficient (tenTo drop)
    if h : rounded < limit then
      some ⟨negative && rounded != 0, rounded, scale - drop, h, by omega⟩
    else if scale ≤ drop then none
    else
      let again := roundHalfEven rounded 10
      if h : again < limit then
        some ⟨negative && again != 0, again, scale - drop - 1, h, by omega⟩
      else none

/-! ### Normal form -/

/-- The shortest coefficient and scale of the same number, given how many places may go. -/
def stripZeros (coefficient : Nat) : Nat → Nat × Nat
  | 0 => (coefficient, 0)
  | scale + 1 =>
    if coefficient % 10 = 0 then stripZeros (coefficient / 10) scale else (coefficient, scale + 1)

theorem stripZeros_fst_le (c s : Nat) : (stripZeros c s).1 ≤ c := by
  induction s generalizing c with
  | zero => simp [stripZeros]
  | succ s ih =>
    rw [stripZeros]
    split
    · exact Nat.le_trans (ih _) (Nat.div_le_self _ _)
    · exact Nat.le_refl _

theorem stripZeros_snd_le (c s : Nat) : (stripZeros c s).2 ≤ s := by
  induction s generalizing c with
  | zero => simp [stripZeros]
  | succ s ih =>
    rw [stripZeros]
    split
    · exact Nat.le_trans (ih _) (Nat.le_succ _)
    · exact Nat.le_refl _

/-- The same number without trailing zeros after the point; zero is plain. -/
def normalize (d : Decimal) : Decimal :=
  if d.coefficient = 0 then zero
  else
    ⟨d.negative, (stripZeros d.coefficient d.scale).1, (stripZeros d.coefficient d.scale).2,
      Nat.lt_of_le_of_lt (stripZeros_fst_le _ _) d.coefficient_lt,
      Nat.le_trans (stripZeros_snd_le _ _) d.scale_le⟩

end Decimal

end Questionnaire
