import Questionnaire.Run.Result
import Questionnaire.Text.Uppercase

/-!
The input element that a front end shows for a result.

The first parameter that is asked for decides on the element: truth values are radio buttons, one for
each parameter; options are a list to select from; numbers and other data are entered.
-/

namespace Questionnaire

structure Labels where
  title : String → Option String
  hint : String → Option String

inductive PromptKind
  | radio
  | select
  | number
  | text
deriving DecidableEq, Repr, Inhabited

def PromptKind.name : PromptKind → String
  | radio => "radio"
  | select => "select"
  | number => "number"
  | text => "text"

/-- An input element. Options are keys with captions, in the order of the keys. -/
structure Prompt where
  name : Option String
  type : AnswerType
  kind : PromptKind
  label : String
  options : List (String × String)
  hint : Option String
deriving DecidableEq, Inhabited

namespace Prompt

def kindOf : AnswerType → PromptKind
  | .boolean => .radio
  | .list => .select
  | .number => .number
  | .text | .moment | .timeSpan | .period | .unknown => .text

def optionsOf (labels : Labels) (first : Parameter) (all : List Parameter) :
    PromptKind → List (String × String)
  | .radio => Dictionary.ofList (all.map fun p =>
      (p.name, (labels.title p.name).getD (Text.caption p.name)))
  | .select => Dictionary.ofList (first.options.map fun option =>
      (option, (labels.title option).getD option))
  | .number | .text => []

/-- The element for a result. The caption is that of the step, or else that of the parameter. -/
def ofResult (labels : Labels) (r : Result) : Prompt :=
  match r.questions.parameters.toList with
  | [] => ⟨none, r.askedType, .text, "", [], none⟩
  | first :: others =>
    let kind := kindOf r.askedType
    { name := first.name
      type := r.askedType
      kind
      label := ((labels.title r.questions.label) <|> (labels.title first.name)).getD
        (Text.caption r.questions.label)
      options := optionsOf labels first (first :: others) kind
      hint := labels.hint first.name }

def toJson (p : Prompt) : Json :=
  .object ([("name", Json.ofString? p.name), ("inferred_type", .string p.type.name),
    ("kind", .string p.kind.name), ("label", .string p.label)] ++
      (if p.options.isEmpty then []
        else [("options", .object (p.options.map fun (key, text) => (key, .string text)))]) ++
      match p.hint with
      | some hint => [("hint_text", .string hint)]
      | none => [])

end Prompt

end Questionnaire
