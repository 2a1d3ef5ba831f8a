import Questionnaire.Shape.Mismatch
import Questionnaire.Yaml.Problem

/-!
Why a YAML text does not hold the expected data.
-/

namespace Questionnaire.Yaml

/-- Why a text could not be read. A mismatch knows its place once it has left the part of the
document that it belongs to: the mark, and the path from the root. -/
inductive Error
  | form (e : FormError)
  | unknownAnchor (mark : Mark)
  | depthLimit (mark : Mark)
  | repetitionLimit
  | severalDocuments
  | shape (mismatch : Shape.Mismatch) (place : Option (Mark × String))
deriving DecidableEq, Repr, Inhabited

namespace Error

/-- The error with a place, unless it has one already. -/
def located (mark : Mark) (path : String) : Error → Error
  | shape m none => shape m (some (mark, path))
  | e => e

def mark? : Error → Option Mark
  | form e => some e.mark
  | unknownAnchor mark => some mark
  | depthLimit mark => some mark
  | shape _ (some (mark, _)) => some mark
  | _ => none

def summary : Error → String
  | form e => e.message
  | unknownAnchor _ => "unknown anchor"
  | depthLimit _ => "recursion limit exceeded"
  | repetitionLimit => "repetition limit exceeded"
  | severalDocuments =>
    "deserializing from YAML containing more than one document is not supported"
  | shape m none => m.message
  | shape m (some (_, path)) => (if path = "." then "" else path ++ ": ") ++ m.message

/-- The wording of an error. The start of a text is not worth telling, and an error of form tells its
marks itself. -/
def message : Error → String
  | form e => e.message
  | e =>
    match e.mark? with
    | some mark => if mark.isOrigin then e.summary else e.summary ++ " at " ++ mark.toText
    | none => e.summary

end Error

end Questionnaire.Yaml
