import Questionnaire.Program.Run

/-!
The program: reads what its arguments name and writes what comes of it.
-/

namespace Questionnaire.Program

def reason : IO.Error → String
  | .noFileOrDirectory .. => "No such file or directory (os error 2)"
  | .permissionDenied .. => "Permission denied (os error 13)"
  | .inappropriateType .. => "Is a directory (os error 21)"
  | .userError _ => "stream did not contain valid UTF-8"
  | e => toString e

def Invocation.files : Invocation → List String
  | version => []
  | perform options task =>
    options.config.toList ++
      match task with
      | .validate script | .template script | .interview script => [script]
      | .execute script answers => script :: answers.toList

def fetch (file : String) : IO (String × Except String String) := do
  try
    let text ← IO.FS.readFile file
    return (file, .ok text)
  catch e => return (file, .error (reason e))

/-- Writes an outcome and gives its exit code. -/
def deliver (o : Outcome) : IO UInt32 := do
  (← IO.getStdout).putStr o.out
  (← IO.getStderr).putStr o.err
  return o.exit.toUInt32

/-- Shows a session and gives it lines until it ends. -/
partial def talk (options : Options) (s : Session) : IO UInt32 := do
  let output ← IO.getStdout
  match s.view with
  | .error e => deliver (failed options (.message e.message))
  | .ok (.done text) => deliver ⟨0, text, ""⟩
  | .ok (.ask text) =>
    output.putStr text
    output.flush
    let line ← (← IO.getStdin).getLine
    if line.isEmpty then deliver ⟨0, "\n", ""⟩
    else
      match Command.ofLine line with
      | .quit => return 0
      | command =>
        let (next, notice) := s.step command
        match notice with
        | some n => (← IO.getStderr).putStr (noticeText n)
        | none => pure ()
        talk options next

end Questionnaire.Program

open Questionnaire.Program in
def main (args : List String) : IO UInt32 := do
  let named := ((Invocation.ofStrings args).map Invocation.files).getD []
  let known ← named.mapM fetch
  let files : Files := fun file =>
    ((known.find? (·.1 == file)).map (·.2)).getD (.error "No such file or directory (os error 2)")
  match start files args with
  | .finished o => deliver o
  | .session options s => talk options s
