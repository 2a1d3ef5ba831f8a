import Questionnaire.Model.Basic
import Questionnaire.Model.Places
import Questionnaire.Value.Yaml

/-!
The names that a script declares.

Constants, asked parameters and derived parameters share one set of names; every name is declared
once.
-/

namespace Questionnaire

/-- The range of a constant: its name in the section of constants. -/
def Source.constantRange (source : Source) (section_ : Nat) (name : String) : Range :=
  match source.find? name section_ with
  | some place => source.range place name.utf8ByteSize
  | none => source.lineRange section_

def addConstants (source : Source) (section_ : Nat) (constants : ParameterStore) :
    List Script.Constant → Except Defect ParameterStore
  | [] => .ok constants
  | c :: rest =>
    let range := source.constantRange section_ c.name
    if Text.isBlankText c.name then .error ⟨.unnamedConstant, range⟩
    else if constants.contains c.name then .error ⟨.duplicateConstant c.name, range⟩
    else
      let value := Value.ofYaml c.value
      if value.isUnknown then .error ⟨.constantWithoutValue c.name, range⟩
      else addConstants source section_ (constants.insert (.ofValue c.name value)) rest

def readConstants (source : Source) (constants : List Script.Constant) :
    Except Defect ParameterStore :=
  addConstants source ((source.find? "constants:" 0).getD 0) .empty constants

def Step.declarations (index : Nat) (s : Step) : List Declaration :=
  match s.kind with
  | .question parameters _ => parameters.map fun p => ⟨p.name, .question index, p.valueType⟩
  | .derivation name type _ => [⟨name, .derivation index, type⟩]
  | .gate .. => []

/-- The names that steps declare; `index` is the number of the first one. -/
def declarationsOf : (index : Nat) → List Step → List Declaration
  | _, [] => []
  | index, s :: rest => s.declarations index ++ declarationsOf (index + 1) rest

def Origin.step? : Origin → Option Nat
  | constant => none
  | question step | derivation step => some step

/-- Adds declarations to those already made. The ids of the steps are for messages. -/
def addDeclarations (places : Places) (ids : List String) (declared : List Declaration) :
    List Declaration → Except Defect (List Declaration)
  | [] => .ok declared
  | d :: rest =>
    match declared.find? (·.name == d.name) with
    | none => addDeclarations places ids (declared ++ [d]) rest
    | some other =>
      .error ⟨.alreadyDeclared d.name (other.origin.step?.map fun step => ids[step]?.getD ""),
        places.within (d.origin.step?.getD 0) d.name⟩

def declare (places : Places) (constants : ParameterStore) (steps : List Step) :
    Except Defect (List Declaration) :=
  addDeclarations places (steps.map (·.id))
    (constants.toList.map fun c => ⟨c.name, .constant, c.type⟩) (declarationsOf 0 steps)

/-- Refuses a gate that falls back to a step that is no question. -/
def checkFallbacks (places : Places) (steps : List Step) : (index : Nat) → List Step →
    Except Defect Unit
  | _, [] => .ok ()
  | index, s :: rest =>
    match s.kind with
    | .gate _ _ _ (some fallback) =>
      match steps[fallback]? with
      | some other =>
        if other.isQuestion then checkFallbacks places steps (index + 1) rest
        else .error ⟨.fallbackIsNoQuestion s.id other.id, places.within index other.id⟩
      | none => checkFallbacks places steps (index + 1) rest
    | _ => checkFallbacks places steps (index + 1) rest

end Questionnaire
