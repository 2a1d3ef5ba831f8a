import Questionnaire.Model.Declarations
import Questionnaire.Model.Steps
import Questionnaire.Model.Typing
import Questionnaire.Script.Reader

/-!
Models out of the texts of scripts.

The first defect ends the work, in this order: the document, ids, steps, constants, names, types.
-/

namespace Questionnaire

def Source.documentRange (source : Source) (e : Yaml.Error) : Range :=
  source.lineRange ((e.mark?.map (·.index)).getD 0)

def Model.ofScript (source : Source) (script : Script) : Except Defect Model := do
  if script.steps.isEmpty then throw ⟨.noSteps, source.lineRange 0⟩
  let places := Places.ofSteps source script.steps
  let ids := script.steps.map (·.id)
  checkIds places 0 [] ids
  let steps ← buildSteps places ids 0 script.steps
  let constants ← readConstants source script.constants
  let declarations ← declare places constants steps
  checkFallbacks places steps 0 steps
  let declared := script.steps.map fun s => s.derivation.bind (·.type)
  let table := inferTypes steps declared declarations
  checkTypes places table 0 steps declared
  return {
    info := script.info.map fun (key, value) => (key, value.label)
    constants
    steps := steps.map (·.typed table)
    declarations := declarations.map (·.typed table) }

/-- The model that the text of a script declares. -/
def Model.ofText (text : String) : Except Defect Model :=
  let source := Source.ofText text
  match Script.ofText text with
  | .ok script => Model.ofScript source script
  | .error e => .error ⟨.document e, source.documentRange e⟩

end Questionnaire
