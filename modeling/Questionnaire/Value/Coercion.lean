import Questionnaire.Value.Inference

/-!
Reading a value as another type.
-/

namespace Questionnaire.Value

/-- The value read as the type given. A text is read again; every answer has a text; a single truth
value or number is also a list of one item. The unknown type accepts every value as it is. -/
def coerce? (v : Value) (target : AnswerType) : Option Value :=
  if v.type = target ∨ target = .unknown then some v
  else
    match target, v with
    | .text, unknown => none
    | .text, v => some (text v.toText)
    | _, text s => if (ofText s).type = target then some (ofText s) else none
    | .list, boolean b => some (list (booleanText b) [])
    | .list, number d => some (list (number d).toText [])
    | _, _ => none

end Questionnaire.Value
