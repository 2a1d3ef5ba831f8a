import Questionnaire.Interview.Session
import Questionnaire.Run.Cache

/-!
What an interview writes when all its lines are given at once.
-/

namespace Questionnaire

structure Transcript where
  screens : String
  notices : List Notice
  error : Option String
deriving Inhabited

def Transcript.after (screen : String) (notice : Option Notice) (t : Transcript) : Transcript :=
  { t with screens := screen ++ t.screens, notices := notice.toList ++ t.notices }

namespace Session

/-- What a session writes when it gets these lines and no more. -/
def converse (s : Session) (lines : List String) : Transcript :=
  match s.view with
  | .error e => ⟨"", [], some e.message⟩
  | .ok (.done text) => ⟨text, [], none⟩
  | .ok (.ask text) =>
    match lines with
    | [] => ⟨text ++ "\n", [], none⟩
    | line :: rest =>
      match Command.ofLine line with
      | .quit => ⟨text, [], none⟩
      | command =>
        let (next, notice) := s.step command
        (next.converse rest).after text notice

end Session

/-! ### Interviews about scripts -/

/-- The lines of a text, without the line breaks at their ends. -/
def Text.lines (text : String) : List String :=
  let lines := (Text.splitAll '\n' text.toList).map String.ofList
  if text.endsWith "\n" || text.isEmpty then lines.dropLast else lines

def Session.ofScript (config : Config) (script : String) : Except Failure Session :=
  match Model.ofText script with
  | .error d => .error (.script d)
  | .ok m => (Session.start m config).mapError .run

def interview (config : Config) (script input : String) : Transcript :=
  match Session.ofScript config script with
  | .error e => ⟨"", [], some ("error: " ++ e.message)⟩
  | .ok s => s.converse (Text.lines input)

end Questionnaire
