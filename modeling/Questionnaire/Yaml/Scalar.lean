import Questionnaire.Binary64.Reader
import Questionnaire.Binary64.Shortest
import Questionnaire.Shape.Mismatch
import Questionnaire.Yaml.Token

/-!
What the text of a scalar stands for.

A plain scalar is null, a truth value, a whole number, a binary number or else a text. Digits that
begin with a zero are a text. A tag may ask for one of these kinds.
-/

namespace Questionnaire.Yaml

/-- What a scalar stands for. A `wide` number has more than 64 bits. -/
inductive Resolved
  | null
  | bool (b : Bool)
  | integer (n : Int)
  | wide (n : Int)
  | float (x : Binary64)
  | string (s : String)
deriving DecidableEq, Inhabited

namespace Scalar

def isNull (s : String) : Bool := ["null", "Null", "NULL", "~"].contains s

def bool? (s : String) : Option Bool :=
  if ["true", "True", "TRUE"].contains s then some true
  else if ["false", "False", "FALSE"].contains s then some false
  else none

def digit? (base : Nat) (c : Char) : Option Nat :=
  let value :=
    if c.isDigit then some (c.toNat - 48)
    else if 'a' ≤ c ∧ c ≤ 'f' then some (c.toNat - 87)
    else if 'A' ≤ c ∧ c ≤ 'F' then some (c.toNat - 55)
    else none
  value.filter (· < base)

def digits? (base : Nat) (cs : List Char) : Option Nat :=
  if cs.isEmpty then none
  else cs.foldlM (fun n c => (digit? base c).map (n * base + ·)) 0

def atSign (cs : List Char) : Bool := cs.head?.any fun c => c == '+' || c == '-'

def dropSign (cs : List Char) : List Char := if atSign cs then cs.tail else cs

/-- Whether the text is digits that begin with a zero, more than one of them. -/
def isPaddedDigits (cs : List Char) : Bool :=
  match dropSign cs with
  | '0' :: d :: rest => (d :: rest).all Char.isDigit
  | _ => false

def based? : List Char → Option Nat
  | '0' :: 'x' :: rest => digits? 16 rest
  | '0' :: 'o' :: rest => digits? 8 rest
  | '0' :: 'b' :: rest => digits? 2 rest
  | _ => none

def natural? (cs : List Char) : Option Nat :=
  let body := match cs with
    | '+' :: rest => rest
    | cs => cs
  based? body <|> if isPaddedDigits cs then none else digits? 10 body

def negative? : List Char → Option Nat
  | '-' :: rest => based? rest <|> if isPaddedDigits rest then none else digits? 10 rest
  | _ => none

/-- A whole number of at most 128 bits. -/
def integer? (cs : List Char) : Option Resolved :=
  match natural? cs, negative? cs with
  | some n, _ =>
    if n < twoTo 64 then some (.integer n) else if n < twoTo 128 then some (.wide n) else none
  | none, some n =>
    if n ≤ twoTo 63 then some (.integer (-n)) else if n ≤ twoTo 127 then some (.wide (-n)) else none
  | none, none => none

def float? (cs : List Char) : Option Binary64 :=
  let body := match cs with
    | '+' :: rest => rest
    | cs => cs
  if cs.head? = some '+' ∧ atSign body then none
  else
    let word := String.ofList body
    if [".inf", ".Inf", ".INF"].contains word then some (.infinite false)
    else if ["-.inf", "-.Inf", "-.INF"].contains (String.ofList cs) then some (.infinite true)
    else if [".nan", ".NaN", ".NAN"].contains (String.ofList cs) then some .notANumber
    else (Binary64.read? body).filter Binary64.isFinite

/-- What a text stands for when nothing but the text tells it. -/
def resolvePlain (s : String) : Resolved :=
  let cs := s.toList
  if s = "" || isNull s then .null
  else
    match bool? s with
    | some b => .bool b
    | none =>
      match integer? cs with
      | some n => n
      | none =>
        match (if isPaddedDigits cs then none else float? cs) with
        | some x => .float x
        | none => .string s

/-- The names of the kinds that a tag can ask for. -/
def coreTag (name : String) : String := "tag:yaml.org,2002:" ++ name

/-- What a scalar stands for. A tag that has been dealt with is no longer looked at. -/
def resolve (s : String) (style : ScalarStyle) (tag : Option String) :
    Except Shape.Mismatch Resolved :=
  let untagged := if style = .plain then resolvePlain s else .string s
  let need (expected : String) : Option Resolved → Except Shape.Mismatch Resolved
    | some r => .ok r
    | none => .error (.invalidValue (Shape.stringFound s) expected)
  match tag with
  | none => .ok untagged
  | some t =>
    if t = coreTag "bool" then need "a boolean" ((bool? s).map .bool)
    else if t = coreTag "int" then need "an integer" (integer? s.toList)
    else if t = coreTag "float" then need "a float" ((float? s.toList).map .float)
    else if t = coreTag "null" then need "null" (if isNull s then some .null else none)
    else if startsWithMark t then .ok untagged
    else .ok (.string s)
where
  /-- Whether a tag is one of the document's own. -/
  startsWithMark (t : String) : Bool := t.toList.head? == some '!'

/-- The name that a tag of the document's own gives. A mark that stands alone is the name itself. -/
def ownTag? : Option String → Option String
  | none => none
  | some t =>
    match t.toList with
    | ['!'] => some "!"
    | '!' :: rest => some (String.ofList rest)
    | _ => none

end Scalar

namespace Resolved

def wideFound (n : Int) : String :=
  Shape.integerFound n ++ (if n < 0 then " as i128" else " as u128")

def describe : Resolved → String
  | null => "unit value"
  | bool b => Shape.booleanFound b
  | integer n => Shape.integerFound n
  | wide n => wideFound n
  | float x => "floating point `" ++ x.plainText ++ "`"
  | string s => Shape.stringFound s

end Resolved

end Questionnaire.Yaml
