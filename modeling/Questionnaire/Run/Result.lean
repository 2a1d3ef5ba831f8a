import Questionnaire.Model.Basic

/-!
Results of runs.

A run ends at an end of its model, or it halts on a question step and asks what is not known there.
-/

namespace Questionnaire

/-- Parameters that are asked for together, under the id of the step that asks. -/
structure Batch where
  label : String
  parameters : ParameterStore
deriving DecidableEq, Inhabited

def Batch.none : Batch := ⟨"", .empty⟩

/-- A visited step and the names that it read. -/
structure Visited where
  step : String
  kind : String
  description : String
  used : List String
deriving DecidableEq, Inhabited

structure Result where
  questions : Batch
  parameters : ParameterStore
  trace : List Visited
  outcome : Option String
deriving DecidableEq, Inhabited

namespace Result

/-- Whether the run reached an end: nothing is asked. -/
def isTerminal (r : Result) : Bool := r.questions.parameters.isEmpty

def askedType (r : Result) : AnswerType :=
  match r.questions.parameters.toList with
  | [] => .unknown
  | first :: _ => first.type

end Result

/-! ### As JSON -/

def Batch.toJson (b : Batch) : Json :=
  .object [("label", .string b.label), ("parameters", b.parameters.toJson)]

def Batch.ofJson (j : Json) : Json.Shaped Batch :=
  Json.readRecord "QuestionArgs" ["label", "parameters"] false
    (fun field value =>
      if field = "label" then (Json.readString? value).map fun _ => ()
      else (ParameterStore.ofJson value).map fun _ => ())
    (fun fields => do
      let label ← fields.required "label" Json.readString?
      let parameters ← fields.required "parameters" ParameterStore.ofJson
      return ⟨label, parameters⟩) j

/-- A visited step as a record. Names are left out when there are none. -/
def Visited.toJson (v : Visited) : Json :=
  .object ([("step_id", .string v.step), ("kind", .string v.kind),
    ("description", .string v.description)] ++
      if v.used.isEmpty then [] else [("parameters_used", Json.ofStrings v.used)])

def Json.readStrings : Json → Json.Shaped (List String) := Json.readList Json.readString?

def Visited.ofJson (j : Json) : Json.Shaped Visited :=
  Json.readRecord "FlowExecutionItem" ["step_id", "kind", "description", "parameters_used"] false
    (fun field value =>
      if field = "parameters_used" then (Json.readStrings value).map fun _ => ()
      else (Json.readString? value).map fun _ => ())
    (fun fields => do
      let step ← fields.required "step_id" Json.readString?
      let kind ← fields.required "kind" Json.readString?
      let description ← fields.required "description" Json.readString?
      let used ← fields.optional "parameters_used" [] Json.readStrings
      return ⟨step, kind, description, used⟩) j

namespace Result

def toJson (r : Result) : Json :=
  .object ([("questions", r.questions.toJson), ("parameters", r.parameters.toJson),
    ("stacktrace", .array (r.trace.map Visited.toJson))] ++
      match r.outcome with
      | some outcome => [("outcome", .string outcome)]
      | none => [])

def ofJson (j : Json) : Json.Shaped Result :=
  Json.readRecord "ExecutionResult" ["questions", "parameters", "stacktrace", "outcome"] false
    (fun field value =>
      if field = "questions" then (Batch.ofJson value).map fun _ => ()
      else if field = "parameters" then (ParameterStore.ofJson value).map fun _ => ()
      else if field = "stacktrace" then (Json.readList Visited.ofJson value).map fun _ => ()
      else (Json.readOptionalString value).map fun _ => ())
    (fun fields => do
      let questions ← fields.required "questions" Batch.ofJson
      let parameters ← fields.required "parameters" ParameterStore.ofJson
      let trace ← fields.required "stacktrace" (Json.readList Visited.ofJson)
      let outcome ← fields.optional "outcome" none Json.readOptionalString
      return ⟨questions, parameters, trace, outcome⟩) j

end Result

end Questionnaire
