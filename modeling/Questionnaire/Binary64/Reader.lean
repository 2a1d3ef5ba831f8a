import Questionnaire.Binary64.Basic
import Questionnaire.Decimal.Text

/-!
Reading binary numbers from decimal digits.

`nearest` rounds the exact decimal once. `quick` is the reader of JSON documents: it rounds the
digits to a binary number first and then multiplies or divides by a power of ten, so the last bit
may differ from the nearest number.
-/

namespace Questionnaire.Binary64

/-- The number nearest to `± significand * 10 ^ exponent`. -/
def nearest (negative : Bool) (significand : Nat) (exponent : Int) : Binary64 :=
  if significand = 0 then zero negative
  else if 400 < exponent then infinite negative
  else if 0 ≤ exponent then ofRatio negative (significand * tenTo exponent.toNat) 1
  else
    -- digits that cannot matter are not computed with
    let places := (-exponent).toNat
    if (Decimal.digits significand).length + 400 < places then zero negative
    else ofRatio negative significand (tenTo places)

/-- Divides by `10 ^ 308` until the power of ten left is one of the table. -/
def quickDown (f : Binary64) : Nat → Nat → Binary64
  | 0, _ => f
  | fuel + 1, places =>
    if places ≤ 308 then overPower f places
    else
      match f with
      | finite s 0 _ => zero s
      | f => quickDown (overPower f 308) fuel (places - 308)

/-- `significand * 10 ^ exponent` in two roundings; nothing when it is out of range. -/
def quick? (negative : Bool) (significand : Nat) (exponent : Int) : Option Binary64 :=
  let f := ofNat significand
  if 0 ≤ exponent then
    if significand = 0 then some (zero negative)
    else if 308 < exponent then none
    else
      let r := timesPower f exponent.toNat
      if r.isFinite then some (r.withSign negative) else none
  else some ((quickDown f 8 (-exponent).toNat).withSign negative)

def digitsValue (ds : List Char) : Nat :=
  ds.foldl (fun n c => n * 10 + (c.toNat - 48)) 0

/-- Reads an optional exponent that ends the text. -/
def readExponent? : List Char → Option Int
  | [] => some 0
  | c :: rest =>
    if c = 'e' ∨ c = 'E' then
      let (negative, ds) := match rest with
        | '-' :: ds => (true, ds)
        | '+' :: ds => (false, ds)
        | ds => (false, ds)
      if ds.isEmpty || !ds.all Char.isDigit then none
      else
        let n : Int := min (digitsValue ds) 100000
        some (if negative then -n else n)
    else none

/-- Reads a number written in decimal notation: sign, digits, point, exponent. -/
def read? (cs : List Char) : Option Binary64 :=
  let (negative, cs) := match cs with
    | '-' :: rest => (true, rest)
    | '+' :: rest => (false, rest)
    | cs => (false, cs)
  let whole := cs.takeWhile Char.isDigit
  let rest := cs.dropWhile Char.isDigit
  let (fraction, rest) := match rest with
    | '.' :: rest => (rest.takeWhile Char.isDigit, rest.dropWhile Char.isDigit)
    | rest => ([], rest)
  if whole.isEmpty && fraction.isEmpty then none
  else (readExponent? rest).map fun exponent =>
    nearest negative (digitsValue (whole ++ fraction)) (exponent - fraction.length)

end Questionnaire.Binary64
