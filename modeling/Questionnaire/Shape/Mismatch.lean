import Questionnaire.Text.Quoted

/-!
Mismatches between a document and the data that it should hold.
-/

namespace Questionnaire.Shape

/-- Why a part of a document does not have the expected shape. What was found is given as messages
mention it. -/
inductive Mismatch
  | invalidType (found expected : String)
  | invalidValue (found expected : String)
  | invalidLength (length : Nat) (expected : String)
  | missingField (name : String)
  | duplicateField (name : String)
  | unknownField (name : String) (known : List String)
  | unknownVariant (name : String) (known : List String)
  | noAlternative (type : String)
  | taggedAlternative
  | duplicateEntry (key : String)
deriving DecidableEq, Repr, Inhabited

def oneOf : List String → String
  | [] => "there are no fields"
  | [a] => "expected `" ++ a ++ "`"
  | [a, b] => "expected `" ++ a ++ "` or `" ++ b ++ "`"
  | names =>
    "expected one of " ++ String.intercalate ", " (names.map fun name => "`" ++ name ++ "`")

def Mismatch.message : Mismatch → String
  | invalidType found expected => "invalid type: " ++ found ++ ", expected " ++ expected
  | invalidValue found expected => "invalid value: " ++ found ++ ", expected " ++ expected
  | invalidLength length expected =>
    "invalid length " ++ toString length ++ ", expected " ++ expected
  | missingField name => "missing field `" ++ name ++ "`"
  | duplicateField name => "duplicate field `" ++ name ++ "`"
  | unknownField name known => "unknown field `" ++ name ++ "`, " ++ oneOf known
  | unknownVariant name known => "unknown variant `" ++ name ++ "`, " ++ oneOf known
  | noAlternative type => "data did not match any variant of untagged enum " ++ type
  | taggedAlternative => "untagged and internally tagged enums do not support enum input"
  | duplicateEntry key => "duplicate entry " ++ key

def booleanFound (b : Bool) : String := "boolean `" ++ (if b then "true" else "false") ++ "`"

def integerFound (n : Int) : String := "integer `" ++ toString n ++ "`"

def stringFound (s : String) : String := "string " ++ Text.quote s

end Questionnaire.Shape
