/-!
The kinds of defects that a script or an expression can have.
-/

namespace Questionnaire

/-- What is wrong: the form, a name that means nothing, or types that do not fit. -/
inductive DefectKind
  | syntaxError
  | unknownReference
  | typeMismatch
deriving DecidableEq, Repr, Inhabited

namespace DefectKind

/-- The name of a kind in reports for other programs. -/
def name : DefectKind → String
  | syntaxError => "SyntaxError"
  | unknownReference => "UnknownReferenceError"
  | typeMismatch => "TypeMismatchError"

/-- The name of a kind in messages. -/
def text : DefectKind → String
  | syntaxError => "syntax error"
  | unknownReference => "unknown reference"
  | typeMismatch => "type mismatch"

end DefectKind

end Questionnaire
