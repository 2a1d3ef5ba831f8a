import Questionnaire.Model.Basic
import Questionnaire.Run.Config
import Questionnaire.Run.Error

/-!
Answers as a run takes them.

An answer to a question gets the type that the question declares and has to be one of its options.
Nothing can be answered for a constant or a derived parameter, so such entries are left out, as are
entries without a value.
-/

namespace Questionnaire

/-- Whether an option denotes a value: it is the value's text, or it reads as the same value. -/
def Value.isOption (v : Value) (option : String) : Bool :=
  option == v.toText || (Value.ofText option).same v

def AskedParameter.accept (asked : AskedParameter) (answer : Parameter) : Except RunError Value :=
  match answer.value.coerce? asked.valueType with
  | none => .error (.invalidAnswer answer.name (.wrongType answer.text asked.valueType))
  | some v =>
    if asked.options.isEmpty || asked.options.any v.isOption then .ok v
    else .error (.invalidAnswer answer.name (.noOption v.toText asked.options))

namespace Model

def acceptAnswer (m : Model) (strict : Bool) (known : ParameterStore) (answer : Parameter) :
    Except RunError ParameterStore :=
  if answer.value.isUnknown then .ok known
  else
    match m.origin? answer.name with
    | some (.question _) =>
      match m.asked? answer.name with
      | some (_, asked) =>
        (asked.accept answer).map fun v => known.insert (.ofValue answer.name v)
      | none => .ok (known.insert (.ofValue answer.name answer.value))
    | some _ => .ok known
    | none =>
      if strict then .error (.invalidAnswer answer.name .undeclared)
      else .ok (known.insert answer)

def acceptAnswers (m : Model) (strict : Bool) (known : ParameterStore) :
    List Parameter → Except RunError ParameterStore
  | [] => .ok known
  | answer :: rest =>
    match m.acceptAnswer strict known answer with
    | .error e => .error e
    | .ok known => m.acceptAnswers strict known rest

def normalize (m : Model) (strict : Bool) (answers : ParameterStore) :
    Except RunError ParameterStore :=
  m.acceptAnswers strict .empty answers.toList

end Model

end Questionnaire
