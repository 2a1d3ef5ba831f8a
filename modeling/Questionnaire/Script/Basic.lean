import Questionnaire.AnswerType
import Questionnaire.Yaml.Value

/-!
Scripts as they are written.

A script has information about itself, constants and steps. Whether its parts fit together is not
looked at here.
-/

namespace Questionnaire.Script

/-- Where a script goes on: at a step, at `next` or `end`, or with an outcome. -/
inductive Target
  | named (name : String)
  | goto (id : String)
  | outcome (label : String)
deriving DecidableEq, Repr, Inhabited

structure Constant where
  name : String := ""
  value : Yaml.Value := .null
deriving Inhabited

/-- A parameter that a step asks for. -/
structure Question where
  name : String := ""
  type : Option AnswerType := none
  options : Option (List Yaml.Value) := none
  description : Option String := none
deriving Inhabited

structure Case where
  guard : Option Yaml.Value := none
  formula : Yaml.Value := .null
deriving Inhabited

structure Derivation where
  name : String := ""
  type : Option AnswerType := none
  formula : Option Yaml.Value := none
  cases : Option (List Case) := none
deriving Inhabited

/-- A condition with two branches and the step that is asked when the condition is open. -/
structure Gate where
  condition : Yaml.Value := .null
  onTrue : Option Target := none
  onFalse : Option Target := none
  fallback : Option String := none
deriving Inhabited

structure Step where
  id : String := ""
  description : Option String := none
  choice : Option (List Yaml.Value) := none
  questions : Option (List Question) := none
  derivation : Option Derivation := none
  gate : Option Gate := none
  next : Option Target := none
deriving Inhabited

end Script

structure Script where
  info : List (String × Yaml.Value) := []
  constants : List Script.Constant := []
  steps : List Script.Step := []
deriving Inhabited

end Questionnaire
