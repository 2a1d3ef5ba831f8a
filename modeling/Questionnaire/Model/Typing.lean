import Questionnaire.Expression.Typing
import Questionnaire.Model.Basic
import Questionnaire.Model.Places

/-!
Types of derived parameters.

A derivation without a declared type has the type of its first formula that has a known one. Such
derivations may build on each other in any order, so their types are found in several passes. Then
every condition has to be Boolean, and all formulas of a derivation have to agree.
-/

namespace Questionnaire

abbrev TypeTable := List (String × AnswerType)

namespace TypeTable

def get? (table : TypeTable) (name : String) : Option AnswerType :=
  (table.find? (·.1 == name)).map (·.2)

/-- The table with another type for a name that is in it. -/
def set (table : TypeTable) (name : String) (type : AnswerType) : TypeTable :=
  table.map fun (n, t) => if n = name then (n, type) else (n, t)

def ofDeclarations (declarations : List Declaration) : TypeTable :=
  declarations.map fun d => (d.name, d.type)

def caseType (table : TypeTable) (cases : List Case) : AnswerType :=
  (cases.findSome? fun c =>
    match c.formula.root.type table.get? with
    | .ok .unknown | .error _ => none
    | .ok t => some t).getD .unknown

/-- Gives each derivation the type of its cases, one after the other. -/
def pass (table : TypeTable) (derivations : List (String × List Case)) : TypeTable :=
  derivations.foldl (fun t (name, cases) => t.set name (t.caseType cases)) table

def passes (derivations : List (String × List Case)) : Nat → TypeTable → TypeTable
  | 0, table => table
  | n + 1, table => passes derivations n (table.pass derivations)

end TypeTable

/-- The derivations whose type is not declared; `declared` has the declared types of the steps. -/
def untypedDerivations : List Step → (declared : List (Option AnswerType)) →
    List (String × List Case)
  | s :: steps, type :: declared =>
    match s.kind, type with
    | .derivation name _ cases, none => (name, cases) :: untypedDerivations steps declared
    | _, _ => untypedDerivations steps declared
  | _, _ => []

/-- The types of all names. One pass more than there are derivations reaches all types that build on
each other without a circle. -/
def inferTypes (steps : List Step) (declared : List (Option AnswerType))
    (declarations : List Declaration) : TypeTable :=
  let derivations := untypedDerivations steps declared
  TypeTable.passes derivations (derivations.length + 1) (.ofDeclarations declarations)

/-! ### Checking -/

structure TypingSite where
  places : Places
  index : Nat
  id : String
  table : TypeTable

namespace TypingSite

def checkCondition (s : TypingSite) (field : ExpressionField) (f : Formula) : Except Defect Unit :=
  (f.root.checkCondition s.table.get?).mapError (s.places.exprDefect s.index s.id field f.text)

def formulaType (s : TypingSite) (f : Formula) : Except Defect AnswerType :=
  (f.root.type s.table.get?).mapError (s.places.exprDefect s.index s.id .formula f.text)

/-- Refuses cases whose formulas do not have the type agreed on, if there is one yet. Anything agrees
with text, and unknown types agree with all. -/
def checkCases (s : TypingSite) (name : String) : (agreed : Option AnswerType) → List Case →
    Except Defect Unit
  | _, [] => .ok ()
  | agreed, c :: rest => do
    match c.guard with
    | some guard => s.checkCondition .caseCondition guard
    | none => pure ()
    let type ← s.formulaType c.formula
    if type = .unknown then s.checkCases name agreed rest
    else
      match agreed with
      | none => s.checkCases name (some type) rest
      | some expected =>
        if expected = type ∨ expected = .text then s.checkCases name agreed rest
        else
          throw ⟨.formulaType s.id name expected type,
            s.places.inExpression s.index c.formula.text ⟨0, c.formula.text.utf8ByteSize⟩⟩

end TypingSite

def checkTypes (places : Places) (table : TypeTable) : (index : Nat) → List Step →
    (declared : List (Option AnswerType)) → Except Defect Unit
  | index, s :: steps, type :: declared => do
    let site : TypingSite := ⟨places, index, s.id, table⟩
    match s.kind with
    | .gate condition _ _ _ => site.checkCondition .condition condition
    | .derivation name _ cases => site.checkCases name type cases
    | .question .. => pure ()
    checkTypes places table (index + 1) steps declared
  | _, _, _ => .ok ()

/-! ### Using the types -/

def Step.typed (table : TypeTable) (s : Step) : Step :=
  match s.kind with
  | .derivation name _ cases =>
    { s with kind := .derivation name ((table.get? name).getD .unknown) cases }
  | _ => s

def Declaration.typed (table : TypeTable) (d : Declaration) : Declaration :=
  match d.origin with
  | .derivation _ => { d with type := (table.get? d.name).getD .unknown }
  | _ => d

end Questionnaire
