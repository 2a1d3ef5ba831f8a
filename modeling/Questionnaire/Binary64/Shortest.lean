import Questionnaire.Binary64.Basic
import Questionnaire.Decimal.Text

/-!
The fewest decimal digits that read back as the same binary number.

For one digit, two digits and so on, the two neighbours of the number on that decimal grid are
tested against the interval of numbers that round to it. The first grid with a neighbour inside
wins; of two neighbours inside, the nearer, and at a tie the even one.
-/

namespace Questionnaire.Binary64

/-- Digits of a positive number and the power of ten of the first of them. -/
structure Shortest where
  digits : List Char
  exponent : Int
deriving Repr

def tenPower (k : Int) : Nat × Nat :=
  if 0 ≤ k then (tenTo k.toNat, 1) else (1, tenTo (-k).toNat)

/-- The power of ten of the first digit of `n / d`, for a positive `n`. -/
def leadingExponent (n d : Nat) : Int :=
  let guess : Int := ((Nat.log2 n : Int) - Nat.log2 d) * 30103 / 100000
  let atLeast (k : Int) : Bool :=
    let (a, b) := tenPower k
    decide (a * d ≤ n * b)
  if atLeast (guess + 2) then guess + 2
  else if atLeast (guess + 1) then guess + 1
  else if atLeast guess then guess
  else if atLeast (guess - 1) then guess - 1
  else guess - 2

/-- Tries grids of `count`, `count + 1`, … digits. The number and the ends of its interval are
`value`, `low` and `high` over `unit`; `closed` tells that the ends belong to it. -/
def tryGrids (value low high unit : Nat) (closed : Bool) (leading : Int) :
    Nat → Nat → Nat × Int
  | 0, _ => (0, 0)
  | fuel + 1, count =>
    let grid := leading - (count - 1 : Nat)
    let (a, b) := tenPower grid
    let below := value * b / (unit * a)
    let inside (k : Nat) : Bool :=
      let x := k * a * unit
      if closed then decide (low * b ≤ x) && decide (x ≤ high * b)
      else decide (low * b < x) && decide (x < high * b)
    let lower := decide (0 < below) && inside below
    let upper := inside (below + 1)
    if lower && upper then
      let fromLower := value * b - below * a * unit
      let toUpper := (below + 1) * a * unit - value * b
      if fromLower < toUpper then (below, grid)
      else if toUpper < fromLower then (below + 1, grid)
      else (if below % 2 = 0 then below else below + 1, grid)
    else if lower then (below, grid)
    else if upper then (below + 1, grid)
    else tryGrids value low high unit closed leading fuel (count + 1)

def dropTrailingZeros (ds : List Char) : List Char :=
  (ds.reverse.dropWhile (· == '0')).reverse

/-- The shortest digits of `mantissa * 2 ^ exponent`, for a positive mantissa. -/
def shortest (mantissa : Nat) (exponent : Int) : Shortest :=
  let (n, d) := ratio mantissa exponent
  -- quarters of the distance to the next number
  let (half, unit) := ratio 1 (exponent - 2)
  let scaled := 4 * mantissa * half
  let low := if mantissa = twoTo 52 ∧ -1074 < exponent then scaled - half else scaled - 2 * half
  let high := scaled + 2 * half
  let (k, grid) := tryGrids scaled low high unit (mantissa % 2 == 0) (leadingExponent n d) 17 1
  let ds := Decimal.digits k
  ⟨dropTrailingZeros ds, grid + (ds.length - 1 : Nat)⟩

/-! ### Layouts -/

/-- How a number is laid out: the range of leading exponents written positionally, and whether a
positive exponent carries a plus sign. -/
structure Layout where
  least : Int
  most : Int
  plus : Bool

/-- Numbers in JSON documents: positional from `1e-5` to below `1e16`. -/
def Layout.json : Layout := ⟨-5, 15, true⟩

/-- Numbers in YAML documents: the same range, exponents without a plus sign. -/
def Layout.yaml : Layout := ⟨-5, 15, false⟩

/-- Digits with a point, at least one digit on either side of it. -/
def positional (ds : List Char) (exponent : Int) : List Char :=
  if exponent < 0 then
    '0' :: '.' :: (List.replicate ((-exponent).toNat - 1) '0' ++ ds)
  else
    let whole := exponent.toNat + 1
    if ds.length ≤ whole then ds ++ List.replicate (whole - ds.length) '0' ++ ['.', '0']
    else ds.take whole ++ '.' :: ds.drop whole

/-- One digit, the others behind a point, and an exponent. -/
def scientific (plus : Bool) (ds : List Char) (exponent : Int) : List Char :=
  let sign := if exponent < 0 then ['-'] else if plus then ['+'] else []
  let fraction := match ds.drop 1 with
    | [] => []
    | rest => '.' :: rest
  ds.take 1 ++ fraction ++ 'e' :: (sign ++ Decimal.digits exponent.natAbs)

def Layout.chars (layout : Layout) (negative : Bool) (mantissa : Nat) (exponent : Int) :
    List Char :=
  let body :=
    if mantissa = 0 then ['0', '.', '0']
    else
      let s := shortest mantissa exponent
      if layout.least ≤ s.exponent ∧ s.exponent ≤ layout.most then positional s.digits s.exponent
      else scientific layout.plus s.digits s.exponent
  if negative then '-' :: body else body

/-- The text of a number in a JSON document; only finite numbers have one. -/
def jsonText : Binary64 → String
  | finite s m e => String.ofList (Layout.json.chars s m e)
  | _ => "null"

def yamlText : Binary64 → String
  | finite s m e => String.ofList (Layout.yaml.chars s m e)
  | infinite true => "-.inf"
  | infinite false => ".inf"
  | notANumber => ".nan"

/-- The text of a number with all its digits and always a point. -/
def plainText : Binary64 → String
  | finite s m e => String.ofList (Layout.chars ⟨-400, 400, false⟩ s m e)
  | infinite true => "-inf"
  | infinite false => "inf"
  | notANumber => "NaN"

end Questionnaire.Binary64
