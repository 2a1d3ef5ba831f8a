import Questionnaire.Decimal.Basic

/-!
Binary numbers with 53 significant bits.

A finite number is `± mantissa * 2 ^ exponent` with a mantissa below `2 ^ 53` and an exponent of at
least `-1074`; unless the exponent is the least one the mantissa has all its bits. `ofRatio` rounds
an exact quotient to the nearest such number, a half to the even mantissa.
-/

namespace Questionnaire

inductive Binary64
  | finite (negative : Bool) (mantissa : Nat) (exponent : Int)
  | infinite (negative : Bool)
  | notANumber
deriving DecidableEq, Repr, Inhabited

namespace Binary64

def zero (negative : Bool) : Binary64 := finite negative 0 (-1074)

def withSign (negative : Bool) : Binary64 → Binary64
  | finite _ m e => finite negative m e
  | infinite _ => infinite negative
  | notANumber => notANumber

def isFinite : Binary64 → Bool
  | finite .. => true
  | _ => false

/-- The exact quotient `n / d * 2 ^ (-e)` rounded to a whole number. -/
def scaledQuotient (n d : Nat) (e : Int) : Nat :=
  if 0 ≤ e then Decimal.roundHalfEven n (d * twoTo e.toNat)
  else Decimal.roundHalfEven (n * twoTo (-e).toNat) d

/-- The least exponent for which `n / d` has at most 53 bits before the binary point. -/
def exponentFor (n d : Nat) : Int :=
  let guess : Int := (Nat.log2 n : Int) - Nat.log2 d - 52
  let fits (e : Int) : Bool :=
    if 0 ≤ e then decide (n < twoTo 53 * (d * twoTo e.toNat)) else decide (n * twoTo (-e).toNat < twoTo 53 * d)
  max (-1074) (if fits (guess - 1) then guess - 1 else if fits guess then guess else guess + 1)

/-- The number nearest to `n / d`. -/
def ofRatio (negative : Bool) (n d : Nat) : Binary64 :=
  if n = 0 then zero negative
  else
    let e := exponentFor n d
    let m := scaledQuotient n d e
    let (m, e) := if m = twoTo 53 then (twoTo 52, e + 1) else (m, e)
    if 971 < e then infinite negative else finite negative m e

def ofNat (n : Nat) : Binary64 := ofRatio false n 1

/-- Numerator and denominator of a finite number without its sign. -/
def ratio (mantissa : Nat) (exponent : Int) : Nat × Nat :=
  if 0 ≤ exponent then (mantissa * twoTo exponent.toNat, 1) else (mantissa, twoTo (-exponent).toNat)

/-- The rounded product of a number and the binary number nearest to `10 ^ k`. -/
def timesPower (x : Binary64) (k : Nat) : Binary64 :=
  match x, ofNat (tenTo k) with
  | finite s m e, finite _ p q =>
    let (n, d) := ratio m e
    let (a, b) := ratio p q
    ofRatio s (n * a) (d * b)
  | x, _ => x

/-- The rounded quotient of a number and the binary number nearest to `10 ^ k`. -/
def overPower (x : Binary64) (k : Nat) : Binary64 :=
  match x, ofNat (tenTo k) with
  | finite s m e, finite _ p q =>
    let (n, d) := ratio m e
    let (a, b) := ratio p q
    ofRatio s (n * b) (d * a)
  | x, _ => x

end Binary64

end Questionnaire
