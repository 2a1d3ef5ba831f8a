import Questionnaire.Json.Shape
import Questionnaire.Parameter.Basic
import Questionnaire.Value.Json

/-!
Parameters in JSON documents: a record of name, type and value.
-/

namespace Questionnaire.Parameter

def ofAnswer (name : String) (answer : Json) : Parameter := ofValue name (Value.ofJson answer)

/-- The parameter of an answer whose type may be declared. A declared text is taken as it is
written; an absent value and a list keep the declared type; any other answer is read as that type if
it can be, and else has the type that it shows. -/
def ofDeclared (name : String) (declared : Option AnswerType) (answer : Json) : Parameter :=
  match declared, answer with
  | none, answer => ofAnswer name answer
  | some .text, .string s => ofValue name (.text s)
  | some type, .null => ⟨name, type, .unknown⟩
  | some type, .array items => ⟨name, type, Value.ofJson (.array items)⟩
  | some type, answer =>
    let inferred := Value.ofJson answer
    ofValue name ((inferred.coerce? type).getD inferred)

def readDeclaredType : Json → Json.Shaped (Option AnswerType)
  | .null => .ok none
  | j => (Json.readAnswerType j).map some

def ofJson (j : Json) : Json.Shaped Parameter :=
  Json.readRecord "ParameterRepr" ["name", "type", "value"] false
    (fun field value =>
      if field = "name" then (Json.readString? value).map fun _ => ()
      else if field = "type" then (readDeclaredType value).map fun _ => ()
      else .ok ())
    (fun fields => do
      let name ← fields.required "name" Json.readString?
      let declared ← fields.optional "type" none readDeclaredType
      let answer ← fields.optional "value" .null .ok
      return ofDeclared name declared answer) j

def toJson (p : Parameter) : Json :=
  .object [("name", .string p.name), ("type", .string p.type.name), ("value", p.value.toJson)]

end Questionnaire.Parameter
