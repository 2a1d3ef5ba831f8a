import Questionnaire.Model.Compile
import Questionnaire.Proofs.Outcome

/-!
The phases of compilation, read off a model that they made.

A text is stored in bytes, and decoding them takes most of the time when a script that is written out
is compiled in a proof. `Model.ofText_eq` starts from the characters instead.
-/

namespace Questionnaire

/-! ### Scripts that are written out -/

section

variable {text left right : String} {cs ds : List Char}

theorem literal_append (first : left = String.ofList cs) (second : right = String.ofList ds) :
    left ++ right = String.ofList (cs ++ ds) := by
  rw [first, second, String.ofList_append]

/-- The script that the characters of a text hold. -/
def Script.ofChars (cs : List Char) : Except Yaml.Error Script :=
  let d := Yaml.Document.ofChars cs
  match Script.read .root d.root, d.trailing with
  | .error e, _ => .error e
  | .ok _, some e => .error e
  | .ok script, none => if d.several then .error .severalDocuments else .ok script

/-- The model that the characters of a script declare. -/
def Model.ofChars (cs : List Char) : Except Defect Model :=
  let source : Source := ⟨cs⟩
  match Script.ofChars cs with
  | .ok script => Model.ofScript source script
  | .error e => .error ⟨.document e, source.documentRange e⟩

theorem Script.ofText_eq (written : text = String.ofList cs) :
    Script.ofText text = Script.ofChars cs := by
  have chars : text.toList = cs := by rw [written, String.toList_ofList]
  unfold ofText Yaml.Document.read ofChars
  cases found : Script.read .root (Yaml.Document.ofChars cs).root with
  | error e => simp only [chars, found]
  | ok script => cases last : (Yaml.Document.ofChars cs).trailing <;> simp only [chars, found, last]

theorem Model.ofText_eq (written : text = String.ofList cs) :
    Model.ofText text = Model.ofChars cs := by
  have chars : text.toList = cs := by rw [written, String.toList_ofList]
  unfold ofText ofChars Source.ofText
  cases read : Script.ofChars cs <;> simp only [chars, Script.ofText_eq written, read]

end

end Questionnaire

namespace Questionnaire.Model

/-! ### Phases -/

/-- The phases that make a model out of a script: the steps as they are built, the constants, the
declarations before derived types are known, and the checks that were passed on the way. -/
structure CompiledFrom (source : Source) (script : Script) (steps : List Step)
    (constants : ParameterStore) (declarations : List Declaration) (m : Model) : Prop where
  filled : script.steps ≠ []
  ids : checkIds (.ofSteps source script.steps) 0 [] (script.steps.map (·.id)) = .ok ()
  built : buildSteps (.ofSteps source script.steps) (script.steps.map (·.id)) 0 script.steps =
    .ok steps
  read : readConstants source script.constants = .ok constants
  declared : declare (.ofSteps source script.steps) constants steps = .ok declarations
  fallbacks : checkFallbacks (.ofSteps source script.steps) steps 0 steps = .ok ()
  types : checkTypes (.ofSteps source script.steps)
    (inferTypes steps (script.steps.map fun s => s.derivation.bind (·.type)) declarations) 0 steps
    (script.steps.map fun s => s.derivation.bind (·.type)) = .ok ()
  model : m = {
    info := script.info.map fun (key, value) => (key, value.label)
    constants := constants
    steps := steps.map (·.typed
      (inferTypes steps (script.steps.map fun s => s.derivation.bind (·.type)) declarations))
    declarations := declarations.map (·.typed
      (inferTypes steps (script.steps.map fun s => s.derivation.bind (·.type)) declarations)) }

theorem ofScript_ok {source : Source} {script : Script} {m : Model}
    (h : ofScript source script = .ok m) :
    ∃ steps constants declarations,
      CompiledFrom source script steps constants declarations m := by
  unfold ofScript at h
  by_cases empty : script.steps.isEmpty = true
  · simp only [empty, if_true, bind_ok] at h
    obtain ⟨_, thrown, _⟩ := h
    cases thrown
  · simp only [empty, if_false, Bool.false_eq_true] at h
    obtain ⟨_, ids, h⟩ := bind_ok.mp h
    obtain ⟨steps, built, h⟩ := bind_ok.mp h
    obtain ⟨constants, read, h⟩ := bind_ok.mp h
    obtain ⟨declarations, declared, h⟩ := bind_ok.mp h
    obtain ⟨_, fallbacks, h⟩ := bind_ok.mp h
    obtain ⟨_, types, h⟩ := bind_ok.mp h
    exact ⟨steps, constants, declarations, {
      filled := by simpa using empty
      ids, built, read, declared, fallbacks, types
      model := (pure_ok.mp h).symm }⟩

theorem ofText_ok {text : String} {m : Model} (h : ofText text = .ok m) :
    ∃ script steps constants declarations,
      CompiledFrom (.ofText text) script steps constants declarations m := by
  unfold ofText at h
  cases read : Script.ofText text with
  | error e => simp [read] at h
  | ok script => exact ⟨script, ofScript_ok (by simpa [read] using h)⟩

end Questionnaire.Model
