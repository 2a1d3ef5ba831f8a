import Questionnaire.Screen.Prompt

/-!
What a line of input means.

A line of the form `name=value` answers one parameter. A line without an equals sign answers the
screen: it names the radio button to pick, or it is the value of the only parameter that is asked for.
-/

namespace Questionnaire

inductive Command
  | nothing
  | quit
  | back
  | answer (line : String)
deriving DecidableEq, Repr, Inhabited

/-- The command of a line. Blanks around it do not matter. -/
def Command.ofLine (line : String) : Command :=
  match Text.trimmed line with
  | "" => nothing
  | "q" | "quit" => quit
  | "<" => back
  | line => answer line

namespace Prompt

def readLine? (p : Prompt) (asked : ParameterStore) (line : String) : Option (String × String) :=
  match Text.splitOnce? '=' line.toList with
  | some (name, value) =>
    let name := String.ofList (Text.trim name)
    if name.isEmpty then none else some (name, String.ofList (Text.trim value))
  | none =>
    if p.kind = .radio ∧ asked.contains line then
      if line.isEmpty then none else some (line, "ja")
    else
      match asked.toList with
      | [only] => if only.name.isEmpty then none else some (only.name, line)
      | _ => none

/-- The answers that a line gives. To pick a radio button answers the others with no. -/
def readAnswers? (p : Prompt) (asked : ParameterStore) (line : String) :
    Option (List Parameter) := do
  let (name, text) ← p.readLine? asked line
  let picked := Parameter.ofText name text
  if p.kind = .radio ∧ picked.value = .boolean true then
    return picked :: (asked.names.filter (· ≠ name)).map fun other => Parameter.ofText other "nee"
  else return [picked]

end Prompt

end Questionnaire
