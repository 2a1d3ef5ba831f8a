import Questionnaire.Run.Config
import Questionnaire.Toml.Reader

/-!
Settings of runs in settings files.
-/

namespace Questionnaire

namespace Toml

def Value.readSize : Value → Except Shape.Mismatch Nat
  | integer n =>
    if n < 0 then .error (.invalidValue (Shape.integerFound n) "usize") else .ok n.toNat
  | v => .error (.invalidType v.describe "usize")

def Value.readBool : Value → Except Shape.Mismatch Bool
  | boolean b => .ok b
  | v => .error (.invalidType v.describe "a boolean")

end Toml

namespace Config

def set (c : Config) (e : Toml.Entry) : Except Toml.Error Config :=
  let placed {α : Type} (r : Except Shape.Mismatch α) : Except Toml.Error α :=
    r.mapError fun m => ⟨.shape m, e.valueSpan⟩
  match e.name with
  | "max_steps" => (placed e.value.readSize).map fun n => { c with maxSteps := n }
  | "strict_answers" => (placed e.value.readBool).map fun b => { c with strictAnswers := b }
  | "model_cache_capacity" => (placed e.value.readSize).map fun n => { c with cacheCapacity := n }
  | name => .error ⟨.shape (.unknownField name fieldNames), e.nameSpan⟩

def ofToml (text : String) : Except Toml.Error Config := do
  (← Toml.read text).foldlM set {}

end Config

end Questionnaire
