import Questionnaire.Expression.Tree
import Questionnaire.Parameter.Store
import Questionnaire.Text.Blank

/-!
Texts with placeholders.

A placeholder is a name between double braces. A text is cut into segments, plain text and
placeholders, from left to right; braces around blanks, and braces that are not closed, are plain
text. Rendering puts the known values in and leaves the other placeholders as they are written.
-/

namespace Questionnaire

/-- A value for a placeholder: numbers keep all their places. -/
inductive Insert
  | number (d : Decimal)
  | text (s : String)
deriving DecidableEq, Inhabited

namespace Insert

def toText : Insert → String
  | number d => d.normalize.toText
  | text s => s

def toJson : Insert → Json
  | number d => .string d.toText
  | text s => .string s

def ofParameter (p : Parameter) : Insert :=
  match p.value with
  | .number d => number d
  | _ => text p.text

end Insert

abbrev Inserts := List (String × Insert)

def ParameterStore.inserts (store : ParameterStore) : Inserts :=
  store.toList.map fun p => (p.name, Insert.ofParameter p)

def Inserts.get? (values : Inserts) (name : String) : Option Insert :=
  (values.find? (·.1 == name)).map (·.2)

inductive Segment
  | plain (cs : List Char)
  | placeholder (inside : List Char)
deriving DecidableEq

namespace Segment

def opening : List Char := ['\x7b', '\x7b']

def closing : List Char := ['\x7d', '\x7d']

def nameOf (inside : List Char) : String := String.ofList (Text.trim inside)

def written : Segment → List Char
  | plain cs => cs
  | placeholder inside => opening ++ inside ++ closing

def cut : Nat → List Char → List Segment
  | 0, cs => [plain cs]
  | fuel + 1, cs =>
    match Text.splitAt? opening cs with
    | none => [plain cs]
    | some (before, after) =>
      match Text.splitAt? closing after with
      | none => [plain cs]
      | some (inside, rest) =>
        let braced :=
          if (Text.trim inside).isEmpty then plain (opening ++ inside ++ closing)
          else placeholder inside
        plain before :: braced :: cut fuel rest

def ofChars (cs : List Char) : List Segment := cut cs.length cs

def name? : Segment → Option String
  | plain _ => none
  | placeholder inside => some (nameOf inside)

/-- A segment with its value put in, if it is a placeholder with a value. -/
def fill (values : Inserts) : Segment → List Char
  | plain cs => cs
  | placeholder inside =>
    match values.get? (nameOf inside) with
    | some value => value.toText.toList
    | none => (placeholder inside).written

end Segment

namespace Template

def names (s : String) : List String := (Segment.ofChars s.toList).filterMap Segment.name?

/-- The distinct names that have no value. -/
def unresolved (s : String) (values : Inserts) : List String :=
  distinctNames ((names s).filter fun name => (values.get? name).isNone)

def render (s : String) (values : Inserts) : String :=
  String.ofList ((Segment.ofChars s.toList).flatMap (Segment.fill values))

end Template

end Questionnaire
