import Questionnaire.Model.Defect
import Questionnaire.Script.Basic

/-!
The places of steps and their parts in the text of a script.

A step is looked for behind the step before it, first as a line with its id and else as its id
anywhere. A part is looked for from its step on; when it is not found, the line of the step stands in
for it.
-/

namespace Questionnaire

structure Places where
  source : Source
  steps : List Nat
deriving DecidableEq, Inhabited

namespace Places

/-- Where the steps of these ids are declared, from an offset on. -/
def locateAll (source : Source) : (start : Nat) → List String → List Nat
  | _, [] => []
  | start, id :: ids =>
    let place := ((source.locate? "id" id start) <|> (source.find? id start)).getD start
    place :: locateAll source (place + max 1 id.utf8ByteSize) ids

def ofSteps (source : Source) (steps : List Script.Step) : Places :=
  ⟨source, locateAll source ((source.find? "steps:" 0).getD 0) (steps.map (·.id))⟩

def offset (p : Places) (step : Nat) : Nat := p.steps[step]?.getD 0

def line (p : Places) (step : Nat) : Range := p.source.lineRange (p.offset step)

/-- Where a text that is not empty comes up from a step on. -/
def findIn? (p : Places) (step : Nat) (text : String) : Option Nat :=
  if text.isEmpty then none else p.source.find? text (p.offset step)

def within (p : Places) (step : Nat) (text : String) : Range :=
  match p.findIn? step text with
  | some place => p.source.range place text.utf8ByteSize
  | none => p.line step

def inExpression (p : Places) (step : Nat) (text : String) (part : Span) : Range :=
  match p.findIn? step text with
  | some place => p.source.range (place + part.start) (part.stop - part.start)
  | none => p.line step

def exprDefect (p : Places) (step : Nat) (id : String) (field : ExpressionField) (text : String)
    (e : ExprError) : Defect :=
  ⟨.expression id field e.cause, p.inExpression step text e.span⟩

end Places

end Questionnaire
