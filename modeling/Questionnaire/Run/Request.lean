import Questionnaire.Run.Cache

/-!
Requests to run a script.
-/

namespace Questionnaire

structure Request where
  script : String
  answers : ParameterStore
deriving DecidableEq, Inhabited

namespace Request

def ofJson (j : Json) : Json.Shaped Request :=
  Json.readRecord "ExecuteRequest" ["config", "parameters"] false
    (fun field value =>
      if field = "config" then (Json.readString? value).map fun _ => ()
      else (ParameterStore.ofJson value).map fun _ => ())
    (fun fields => do
      let script ← fields.required "config" Json.readString?
      let answers ← fields.optional "parameters" .empty ParameterStore.ofJson
      return ⟨script, answers⟩) j

/-- The result of a request under the usual settings. -/
def result (r : Request) : Except Failure Result := execute {} r.script r.answers

end Request

end Questionnaire
