import Questionnaire.Interview.Transcript
import Questionnaire.Json.Reader
import Questionnaire.Program.Report
import Questionnaire.Toml.Config

/-!
Running the program.

The program reads files and lines of input, and writes to two outputs. All of it is a function of the
arguments, the files and the input; an interview is a session that the lines are given to.
-/

namespace Questionnaire.Program

/-- The contents of files, or why they cannot be read. -/
abbrev Files := String → Except String String

structure Outcome where
  exit : Nat
  out : String
  err : String
deriving DecidableEq, Repr, Inhabited

/-- The contents of a file, named in messages by what it is. -/
def readFile (files : Files) (what file : String) : Except Problem String :=
  (files file).mapError fun reason =>
    .message ("error reading " ++ what ++ " '" ++ file ++ "': " ++ reason)

def readConfig (files : Files) : Option String → Except Problem Config
  | none => .ok {}
  | some file => do
    let text ← readFile files "config" file
    (Config.ofToml text).mapError fun e =>
      .message ("error parsing config '" ++ file ++ "': " ++ e.toText text)

def readAnswers (files : Files) : Option String → Except Problem ParameterStore
  | none => .ok .empty
  | some file => do
    let text ← readFile files "answers" file
    let j ← (Json.ofText text).mapError fun e =>
      Problem.message ("error: invalid JSON in " ++ file ++ ": " ++ e.message)
    (ParameterStore.ofAnswers j).mapError fun e =>
      .message ("error: invalid answers in " ++ file ++ ": " ++ e.message)

def readModel (files : Files) (file : String) : Except Problem Model := do
  let text ← readFile files "file" file
  (Model.ofText text).mapError (.defect file)

def readResult (files : Files) (config : Config) (script : String) (answers : Option String) :
    Except Problem Result := do
  let text ← readFile files "file" script
  let given ← readAnswers files answers
  (execute config text given).mapError fun
    | .script d => .defect script d
    | .run e => .message ("error: " ++ e.message)

/-- What a command comes to: a text to write, or a session that waits for lines. -/
inductive Work
  | write (text : String)
  | converse (s : Session)
deriving Inhabited

/-- Does a command as far as it needs no input. -/
def Task.perform (files : Files) (options : Options) (config : Config) : Task → Except Problem Work
  | validate script => (readModel files script).map fun m => .write (summary options m)
  | execute script answers =>
    (readResult files config script answers).map fun r => .write (resultText options r)
  | template script => (readModel files script).map fun m => .write (skeletonText options m)
  | interview script => do
    let text ← readFile files "file" script
    match Session.ofScript config text with
    | .ok s => return .converse s
    | .error e => throw (.message ("error: " ++ e.message))

/-- Reads the settings and does a command as far as it needs no input. -/
def perform (files : Files) (options : Options) (task : Task) : Except Problem Work := do
  let config ← readConfig files options.config
  task.perform files options config

def versionText : String := "stepwise 0.1.0\n"

def usageText : String := "usage: stepwise [OPTIONS] <COMMAND>\n"

def noticeText (n : Notice) : String := n.message ++ "\n"

def failed (options : Options) (p : Problem) : Outcome := ⟨1, "", p.report options⟩

def ofTranscript (options : Options) (t : Transcript) : Outcome :=
  let notices := String.join (t.notices.map noticeText)
  match t.error with
  | none => ⟨0, t.screens, notices⟩
  | some e => ⟨1, t.screens, notices ++ (Problem.message e).report options⟩

/-- What the program comes to before it gets any input: an end, or a session that waits for lines. -/
inductive Start
  | finished (o : Outcome)
  | session (options : Options) (s : Session)
deriving Inhabited

def start (files : Files) (args : List String) : Start :=
  match Invocation.ofStrings args with
  | none => .finished ⟨2, "", usageText⟩
  | some .version => .finished ⟨0, versionText, ""⟩
  | some (.perform options task) =>
    match perform files options task with
    | .error p => .finished (failed options p)
    | .ok (.write text) => .finished ⟨0, text, ""⟩
    | .ok (.converse s) => .session options s

def run (files : Files) (input : String) (args : List String) : Outcome :=
  match start files args with
  | .finished o => o
  | .session options s => ofTranscript options (s.converse (Text.lines input))

end Questionnaire.Program
