import Questionnaire.Decimal.Arithmetic
import Questionnaire.Text.Search

/-!
Decimals as text.

`toText` writes every place of the scale. `ofText?` reads a sign, digits and one point; more digits
than a decimal can hold are rounded half up at the first digit that does not fit. An exponent after
`e` moves the point.
-/

namespace Questionnaire.Decimal

/-! ### Writing -/

/-- The decimal digits of a number, without leading zeros; `0` has one digit. -/
def digits (n : Nat) : List Char := Nat.toDigits 10 n

/-- Digits with a point before the last `scale` of them. -/
def placePoint (ds : List Char) (scale : Nat) : List Char :=
  let padded := List.replicate (scale + 1 - ds.length) '0' ++ ds
  if scale = 0 then padded
  else padded.take (padded.length - scale) ++ '.' :: padded.drop (padded.length - scale)

/-- The characters of a decimal: sign, whole part and as many places as its scale. -/
def chars (d : Decimal) : List Char :=
  (if d.negative then ['-'] else []) ++ placePoint (digits d.coefficient) d.scale

def toText (d : Decimal) : String := String.ofList d.chars

/-! ### Reading -/

inductive ReadError
  | empty
  | noDigits
  | secondPoint
  | leadingSeparator
  | unknownCharacter
  | tooManyDigits
  | roundedOverflow
  | badExponent
  | tooManyPlaces (scale : Nat)
  | tooLarge
deriving DecidableEq, Repr

namespace ReadError

def message : ReadError → String
  | empty => "Invalid decimal: empty"
  | noDigits => "Invalid decimal: no digits found"
  | secondPoint => "Invalid decimal: two decimal points"
  | leadingSeparator => "Invalid decimal: must start lead with a number"
  | unknownCharacter => "Invalid decimal: unknown character"
  | tooManyDigits => "Invalid decimal: overflow from too many digits"
  | roundedOverflow => "Invalid decimal: overflow from mantissa after rounding"
  | badExponent => "Failed to parse"
  | tooManyPlaces scale =>
    "Scale exceeds the maximum precision allowed: " ++ toString scale ++ " > 28"
  | tooLarge => "Number exceeds maximum value that can be represented"

def ofChar (c : Char) : ReadError :=
  if c = '.' then secondPoint else if c = '_' then leadingSeparator else unknownCharacter

end ReadError

def digit? (c : Char) : Option Nat :=
  if '0' ≤ c ∧ c ≤ '9' then some (c.toNat - 48) else none

/-- The decimal `± coefficient / 10 ^ scale`, which has to fit as it is. -/
def exactly (negative : Bool) (coefficient scale : Nat) : Except ReadError Decimal :=
  match ofParts? negative coefficient scale with
  | some d => .ok d
  | none => .error .tooManyDigits

/-- The decimal read so far, rounded by the character that follows it. -/
def roundAt (negative : Bool) (coefficient scale : Nat) (next : Char) : Except ReadError Decimal :=
  match digit? next with
  | none =>
    if next = '_' ∨ next = '.' then exactly negative coefficient scale
    else .error (.ofChar next)
  | some d =>
    if d < 5 then exactly negative coefficient scale
    else if coefficient + 1 < limit then exactly negative (coefficient + 1) scale
    else if scale = 0 then .error .roundedOverflow
    else exactly negative ((coefficient + 5) / 10) (scale - 1)

/-- Reads digits, separators and a point. `seen` tells that a digit was read, `point` that the point
was. -/
def readDigits (negative : Bool) :
    List Char → (seen point : Bool) → (coefficient scale : Nat) → Except ReadError Decimal
  | [], seen, _, coefficient, scale =>
    if seen then exactly negative coefficient scale else .error .noDigits
  | c :: rest, seen, point, coefficient, scale =>
    match digit? c with
    | some d =>
      let grown := coefficient * 10 + d
      if limit ≤ grown then
        if point then roundAt negative coefficient scale c else .error .tooManyDigits
      else
        let places := if point then scale + 1 else 0
        match rest with
        | next :: _ =>
          if point && decide (maxScale ≤ places) then roundAt negative grown places next
          else readDigits negative rest true point grown places
        | [] => exactly negative grown places
    | none =>
      if c = '.' && !point then readDigits negative rest seen true coefficient scale
      else if c = '_' && seen then readDigits negative rest seen point coefficient scale
      else .error (.ofChar c)

def readPlain : List Char → Except ReadError Decimal
  | [] => .error .empty
  | '-' :: rest => readDigits true rest false false 0 0
  | '+' :: rest => readDigits false rest false false 0 0
  | cs => readDigits false cs false false 0 0

/-- A whole number below `2 ^ 32` written in digits, with an optional plus sign. -/
def readExponent? (cs : List Char) : Option Nat :=
  let ds := match cs with
    | '+' :: rest => rest
    | _ => cs
  if ds.isEmpty then none
  else do
    let n ← ds.foldlM (fun n c => (digit? c).map (n * 10 + ·)) 0
    if n < twoTo 32 then some n else none

def shiftRight (d : Decimal) (exponent : Nat) : Except ReadError Decimal :=
  if exponent ≤ d.scale then
    .ok { d with scale := d.scale - exponent, scale_le := by have := d.scale_le; omega }
  else if maxScale < exponent then .error (.tooManyPlaces exponent)
  else
    match ofScaled? d.negative (d.coefficient * tenTo exponent) d.scale with
    | some r => .ok r.normalize
    | none => .error .tooLarge

def shiftLeft (d : Decimal) (exponent : Nat) : Except ReadError Decimal :=
  if h : d.scale + exponent ≤ maxScale then .ok { d with scale := d.scale + exponent, scale_le := h }
  else .error (.tooManyPlaces (d.scale + exponent))

def splitExponent? : List Char → Option (List Char × List Char)
  | [] => none
  | c :: cs =>
    if c = 'e' ∨ c = 'E' then some ([], cs)
    else (splitExponent? cs).map fun (base, exponent) => (c :: base, exponent)

def read (cs : List Char) : Except ReadError Decimal :=
  match splitExponent? cs with
  | none => readPlain cs
  | some (base, exponent) => do
    let d ← readPlain base
    let (left, digits) := match exponent with
      | '-' :: rest => (true, rest)
      | _ => (false, exponent)
    match readExponent? digits with
    | none => throw .badExponent
    | some n => if left then shiftLeft d n else shiftRight d n

def ofText (s : String) : Except ReadError Decimal := read s.toList

end Questionnaire.Decimal
