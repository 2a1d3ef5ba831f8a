import Questionnaire.AnswerType
import Questionnaire.Json.Printer
import Questionnaire.Shape.Mismatch

/-!
Reading typed data out of JSON values.

A record is read from an object, or from an
array that holds its fields in order. The fields that are there are checked first, those of an
object in the order of their keys, and only then is a missing field noticed.
-/

namespace Questionnaire.Json

open Shape (Mismatch)

def describe : Json → String
  | null => "null"
  | bool b => Shape.booleanFound b
  | number (.whole n) => Shape.integerFound n
  | number (.binary x) => "floating point `" ++ x.jsonText ++ "`"
  | string s => Shape.stringFound s
  | array _ => "sequence"
  | object _ => "map"

abbrev Shaped (α : Type) := Except Mismatch α

/-! ### Simple data -/

def readString? : Json → Shaped String
  | string s => .ok s
  | j => .error (.invalidType j.describe "a string")

def readOptionalString : Json → Shaped (Option String)
  | null => .ok none
  | j => (readString? j).map some

def readBool : Json → Shaped Bool
  | bool b => .ok b
  | j => .error (.invalidType j.describe "a boolean")

def readSize : Json → Shaped Nat
  | number (.whole n) =>
    if n < 0 then .error (.invalidValue (Shape.integerFound n) "usize") else .ok n.toNat
  | j => .error (.invalidType j.describe "usize")

def readList {α : Type} (item : Json → Shaped α) : Json → Shaped (List α)
  | array items => items.mapM item
  | j => .error (.invalidType j.describe "a sequence")

/-- A variant without data: its name, or an object that gives its name null. -/
def readVariant {α : Type} (known : List String) (ofName? : String → Option α) : Json → Shaped α
  | string s =>
    match ofName? s with
    | some a => .ok a
    | none => .error (.unknownVariant s known)
  | object [(s, value)] =>
    match ofName? s, value with
    | none, _ => .error (.unknownVariant s known)
    | some a, null => .ok a
    | some _, value => .error (.invalidType value.describe "unit")
  | object _ => .error (.invalidValue "map" "map with a single key")
  | j => .error (.invalidType j.describe "string or map")

def readAnswerType (j : Json) : Shaped AnswerType :=
  readVariant AnswerType.allSpellings AnswerType.ofName? j

/-! ### Records -/

/-- The fields that a record was given. `listed` tells that they stood in an array. -/
structure Fields where
  record : String
  names : List String
  given : List (String × Json)
  listed : Bool

namespace Fields

def get? (fields : Fields) (name : String) : Option Json :=
  (fields.given.find? (·.1 == name)).map (·.2)

def missing (fields : Fields) (name : String) : Mismatch :=
  if fields.listed then
    .invalidLength fields.given.length
      ("struct " ++ fields.record ++ " with " ++ toString fields.names.length ++
        (if fields.names.length = 1 then " element" else " elements"))
  else .missingField name

def required {α : Type} (fields : Fields) (name : String) (read : Json → Shaped α) : Shaped α :=
  match fields.get? name with
  | some j => read j
  | none => .error (fields.missing name)

def optional {α : Type} (fields : Fields) (name : String) (default : α) (read : Json → Shaped α) :
    Shaped α :=
  match fields.get? name with
  | some j => read j
  | none => .ok default

end Fields

def checkFields (check : String → Json → Shaped Unit) : List (String × Json) → Shaped Unit
  | [] => .ok ()
  | (name, j) :: rest => do
    check name j
    checkFields check rest

/-- Refuses an array with more items than the record has fields. -/
def checkLength (names : List String) : Json → Shaped Unit
  | array items =>
    if names.length < items.length then
      .error (.invalidLength items.length "fewer elements in array")
    else .ok ()
  | _ => .ok ()

/-- Reads a record. `check` reads one field for its mismatch alone; a name that is no field is left
aside, unless the record is `closed`. -/
def readRecord {α : Type} (record : String) (names : List String) (closed : Bool)
    (check : String → Json → Shaped Unit) (build : Fields → Shaped α) (j : Json) : Shaped α :=
  match j with
  | object members => do
    checkFields (fun name value =>
      if names.contains name then check name value
      else if closed then .error (.unknownField name names) else .ok ()) members
    build ⟨record, names, members.filter fun (name, _) => names.contains name, false⟩
  | array items => do
    let given := names.zip items
    checkFields check given
    let result ← build ⟨record, names, given, true⟩
    checkLength names j
    return result
  | j => .error (.invalidType j.describe ("struct " ++ record))

end Questionnaire.Json
