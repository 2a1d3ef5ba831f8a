import Questionnaire.Content.Skeleton
import Questionnaire.Program.Arguments
import Questionnaire.Run.Cache
import Questionnaire.Screen.Text

/-!
What the program writes.
-/

namespace Questionnaire.Program

/-- What stops a command: a message, or a defect of a script in a file. -/
inductive Problem
  | message (s : String)
  | defect (file : String) (d : Defect)
deriving DecidableEq, Inhabited

/-- A problem as it is written to the error output. A quiet program keeps defects for editors. -/
def Problem.report (options : Options) : Problem → String
  | message s =>
    if options.quiet then ""
    else
      match options.format with
      | .text => s ++ "\n"
      | .json => (Json.object [("error", .string s)]).toText ++ "\n"
  | defect file d =>
    match options.format with
    | .json => d.toJson.toPretty ++ "\n"
    | .text =>
      if options.quiet then ""
      else
        file ++ ":" ++ toString d.range.start.line ++ ":" ++ toString d.range.start.column ++ ": " ++
          d.cause.kind.text ++ ": " ++ d.cause.message ++ "\n"

def pad (width : Nat) (s : String) : String :=
  s ++ String.ofList (List.replicate (width - s.length) ' ')

def stepDetail (s : Step) : String :=
  match s.kind with
  | .question parameters _ =>
    String.intercalate ", " (parameters.map fun p => p.name ++ ": " ++ p.questionType.name)
  | .derivation name type _ => name ++ ": " ++ type.name
  | .gate condition _ _ _ => condition.text

def stepLine (s : Step) : String :=
  "  " ++ pad 24 s.id ++ " " ++ pad 10 s.kind.name ++ " " ++ stepDetail s ++ "\n"

def summary (options : Options) (m : Model) : String :=
  if options.quiet then ""
  else
    match options.format with
    | .text =>
      "OK: " ++ toString m.steps.length ++ " steps, " ++ toString m.questions.length ++
        " questions, " ++ toString m.constants.size ++ " constants\n" ++
        String.join (m.steps.map stepLine)
    | .json =>
      (Json.object [("steps", .array (m.steps.map fun s =>
          .object [("id", .string s.id), ("kind", .string s.kind.name)])),
        ("valid", .bool true)]).toPretty ++ "\n"

def resultText (options : Options) (r : Result) : String :=
  match options.format with
  | .text => r.toText
  | .json => r.toJson.toPretty ++ "\n"

def skeletonText (options : Options) (m : Model) : String :=
  match options.format with
  | .text => m.skeleton.toText
  | .json => m.skeleton.toJson.toPretty ++ "\n"

end Questionnaire.Program
