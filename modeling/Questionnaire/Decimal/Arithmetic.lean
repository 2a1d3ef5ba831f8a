import Questionnaire.Decimal.Basic

/-!
Arithmetic on decimals.

Addition, subtraction and multiplication are exact and then fitted by `ofScaled?`. A quotient is
developed a few digits at a time, nine at most, until it is exact or the coefficient is full; what
is then left decides the rounding. Trailing zeros that this development leaves behind are taken off
in blocks of eight, four, two and one.
-/

namespace Questionnaire.Decimal

def add? (a b : Decimal) : Option Decimal :=
  if a.isZero then some b
  else if b.isZero then some a
  else
    let scale := max a.scale b.scale
    let sum := a.signed * tenTo (scale - a.scale) + b.signed * tenTo (scale - b.scale)
    ofScaled? (decide (sum < 0)) sum.natAbs scale

def sub? (a b : Decimal) : Option Decimal :=
  if b.isZero then some (if a.isZero then b else a) else add? a b.neg

/-- The product. Two short coefficients with more than 47 places between them vanish. -/
def mul? (a b : Decimal) : Option Decimal :=
  if a.isZero || b.isZero then some zero
  else if a.coefficient < twoTo 32 && b.coefficient < twoTo 32 && decide (47 < a.scale + b.scale) then
    some zero
  else ofScaled? (a.negative != b.negative) (a.coefficient * b.coefficient) (a.scale + b.scale)

/-! ### Division -/

/-- The largest number of digits up to `most` by which a quotient can grow and still fit. -/
def room (quotient : Nat) : Nat → Nat
  | 0 => 0
  | most + 1 => if quotient * tenTo (most + 1) < limit then most + 1 else room quotient most

/-- A quotient that grew past the limit, with one place less. `sticky` tells that digits beyond the
last one were left out. -/
def shrink? (quotient : Nat) (scale : Int) (sticky : Bool) : Option (Nat × Int) :=
  if scale ≤ 0 then none
  else
    let q := quotient / 10
    let r := quotient % 10
    some (if decide (5 < r) || r == 5 && (sticky || q % 2 == 1) then q + 1 else q, scale - 1)

/-- The last digit of a quotient settled by the remainder that is left. -/
def settle? (divisor quotient remainder : Nat) (scale : Int) : Option (Nat × Int) :=
  if divisor < 2 * remainder || 2 * remainder == divisor && quotient % 2 == 1 then
    if quotient + 1 < limit then some (quotient + 1, scale) else shrink? (quotient + 1) scale true
  else some (quotient, scale)

/-- Develops a quotient. The result tells whether a remainder was ever met. -/
def develop? (divisor : Nat) : Nat → Nat → Nat → Int → Bool → Option (Nat × Int × Bool)
  | 0, _, _, _, _ => none
  | fuel + 1, quotient, remainder, scale, inexact =>
    if remainder = 0 then
      if 0 ≤ scale then some (quotient, scale, inexact)
      else
        let digits := min 9 scale.natAbs
        if quotient * tenTo digits < limit then
          develop? divisor fuel (quotient * tenTo digits) 0 (scale + digits) inexact
        else none
    else
      let digits := if scale = maxScale then 0 else room quotient (min 9 (maxScale - scale).toNat)
      if decide (scale + digits < 0) && decide (digits < 9) then none
      else if digits = 0 then
        (settle? divisor quotient remainder scale).map fun (q, s) => (q, s, true)
      else
        let grown := remainder * tenTo digits
        let quotient := quotient * tenTo digits + grown / divisor
        let remainder := grown % divisor
        if quotient < limit then develop? divisor fuel quotient remainder (scale + digits) true
        else
          (shrink? quotient (scale + digits) (remainder != 0)).map fun (q, s) => (q, s, true)

/-- Takes off eight zeros at a time while the low 32 bits are clear. -/
def dropEights : Nat → Nat → Nat → Nat × Nat
  | 0, c, s => (c, s)
  | fuel + 1, c, s =>
    if c % twoTo 32 == 0 && decide (8 ≤ s) && c % tenTo 8 == 0 then dropEights fuel (c / tenTo 8) (s - 8)
    else (c, s)

/-- Takes off `n` zeros if there are as many. -/
def dropZeros (n : Nat) : Nat × Nat → Nat × Nat
  | (c, s) => if decide (n ≤ s) && c % tenTo n == 0 then (c / tenTo n, s - n) else (c, s)

def trimQuotient (quotient scale : Nat) : Nat × Nat :=
  dropZeros 1 (dropZeros 2 (dropZeros 4 (dropEights 4 quotient scale)))

/-- The quotient; nothing for a zero divisor or a result that is too large. -/
def div? (a b : Decimal) : Option Decimal :=
  if b.isZero then none
  else if a.isZero then some zero
  else
    match develop? b.coefficient 64 (a.coefficient / b.coefficient)
        (a.coefficient % b.coefficient) ((a.scale : Int) - b.scale) false with
    | none => none
    | some (quotient, scale, inexact) =>
      let (c, s) :=
        if inexact then trimQuotient quotient scale.toNat else (quotient, scale.toNat)
      ofParts? (a.negative != b.negative) c s

/-! ### Rounding to places -/

/-- The number rounded half to even to `places` places. A number with fewer places is left alone. -/
def round (d : Decimal) (places : Nat) (h : places ≤ maxScale) : Decimal :=
  if d.scale ≤ places then d
  else
    let c := roundHalfEven d.coefficient (tenTo (d.scale - places))
    if hc : c < limit then ⟨d.negative && c != 0, c, places, hc, h⟩ else d

def toInt? (d : Decimal) : Option Int :=
  if d.coefficient % tenTo d.scale = 0 then some (d.signed / tenTo d.scale) else none

end Questionnaire.Decimal
