import Questionnaire.Json.Shape

/-!
Settings of runs.
-/

namespace Questionnaire

/-- How many steps a run may visit, whether answers that the script does not declare are refused, and
how many models are kept. -/
structure Config where
  maxSteps : Nat := 1000
  strictAnswers : Bool := false
  cacheCapacity : Nat := 64
deriving DecidableEq, Repr, Inhabited

namespace Config

def fieldNames : List String := ["max_steps", "strict_answers", "model_cache_capacity"]

/-- Reads settings. Those left out have their usual values. -/
def ofJson (j : Json) : Json.Shaped Config :=
  Json.readRecord "EngineConfig" fieldNames true
    (fun field value =>
      if field = "strict_answers" then (Json.readBool value).map fun _ => ()
      else (Json.readSize value).map fun _ => ())
    (fun fields => do
      let usual : Config := {}
      return {
        maxSteps := ← fields.optional "max_steps" usual.maxSteps Json.readSize
        strictAnswers := ← fields.optional "strict_answers" usual.strictAnswers Json.readBool
        cacheCapacity :=
          ← fields.optional "model_cache_capacity" usual.cacheCapacity Json.readSize }) j

end Config

end Questionnaire
