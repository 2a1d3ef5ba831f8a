import Questionnaire.Value.Coercion

/-!
Parameters: named values with a declared type.

A question is a parameter too: one whose value is still absent, or the list of labels that may be
picked, under the type that its answer will have.
-/

namespace Questionnaire

structure Parameter where
  name : String
  type : AnswerType
  value : Value
deriving DecidableEq, Inhabited

namespace Parameter

def ofValue (name : String) (value : Value) : Parameter := ⟨name, value.type, value⟩

def ofText (name : String) (s : String) : Parameter := ofValue name (Value.ofText s)

/-- A parameter that is asked for, with the labels that may be picked. -/
def question (name : String) (type : AnswerType) (labels : List String) : Parameter :=
  ⟨name, type, Value.ofItems labels⟩

def text (p : Parameter) : String := p.value.toText

def options (p : Parameter) : List String := if p.type = .list then p.value.items else []

def same (a b : Parameter) : Bool := a.name == b.name && a.type == b.type && a.value.same b.value

end Parameter

end Questionnaire
