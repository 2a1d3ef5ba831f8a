import Questionnaire.Screen.Prompt

/-!
Results and input elements as text.
-/

namespace Questionnaire

def Parameter.questionLine (p : Parameter) : String :=
  "  " ++ p.name ++ ": " ++ p.type.name ++
    (if p.options.isEmpty then "" else " [" ++ String.intercalate ", " p.options ++ "]") ++ "\n"

def Parameter.valueLine (p : Parameter) : String :=
  "  " ++ p.name ++ " = " ++ p.text ++ " (" ++ p.type.name ++ ")\n"

/-- Parameters under a heading, nothing when there are none. -/
def ParameterStore.section (heading : String) (store : ParameterStore) : String :=
  if store.isEmpty then ""
  else heading ++ ":\n" ++ String.join (store.toList.map Parameter.valueLine)

def Result.toText (r : Result) : String :=
  (if r.isTerminal then "outcome: " ++ r.outcome.getD "(end)" ++ "\n"
    else "questions (" ++ r.questions.label ++ "):\n" ++
      String.join (r.questions.parameters.toList.map Parameter.questionLine)) ++
    r.parameters.section "parameters" ++
    "stacktrace:\n" ++
    String.join (r.trace.map fun v => "  " ++ v.step ++ " [" ++ v.kind ++ "]\n")

namespace Prompt

def current? (known : ParameterStore) (name : String) : Option String :=
  (known.get? name).map (·.text)

/-- Whether an option is marked: a radio button when its own answer is true, a list item when it is
the answer. -/
def isMarked (p : Prompt) (known : ParameterStore) (key : String) : Bool :=
  match p.kind with
  | .radio => current? known key == some "true"
  | _ => (p.name.bind (current? known)) == some key

def body (p : Prompt) (known : ParameterStore) : String :=
  match p.kind, p.name with
  | .radio, _ | .select, _ =>
    String.join (p.options.map fun (key, text) =>
      "  [" ++ (if p.isMarked known key then "x" else " ") ++ "] " ++ text ++ " (" ++ key ++ ")\n")
  | _, some name =>
    "  " ++ name ++ " (" ++ p.type.name ++ "): " ++ (current? known name).getD "" ++ "\n"
  | _, none => ""

def screen (p : Prompt) (known : ParameterStore) : String :=
  "\n" ++ p.label ++ "\n" ++
    (match p.hint with
      | some hint => "  (" ++ hint ++ ")\n"
      | none => "") ++
    p.body known

end Prompt

end Questionnaire
