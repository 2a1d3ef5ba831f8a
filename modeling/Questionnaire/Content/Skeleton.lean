import Questionnaire.Model.Basic
import Questionnaire.Yaml.Printer

/-!
Skeletons of content documents.

A script has no texts for people. They stand in a content document of their own; its skeleton has an
entry for every step that people see and for every parameter that is asked for, with the descriptions
of the script as titles.
-/

namespace Questionnaire

structure ContentEntry where
  key : String
  title : String
  text : String
  hint : String
deriving DecidableEq, Repr, Inhabited

structure ContentStep where
  entry : ContentEntry
  parameters : List ContentEntry
deriving DecidableEq, Repr, Inhabited

structure Content where
  subject : Option String
  steps : List ContentStep
deriving DecidableEq, Repr, Inhabited

def ContentEntry.titled (key title : String) : ContentEntry := ⟨key, title, "", ""⟩

namespace Step

def isShown (s : Step) : Bool :=
  match s.kind with
  | .derivation .. => false
  | _ => true

/-- The entry of a step. A parameter has a title if its description is its own. -/
def content (s : Step) : ContentStep where
  entry := .titled s.id s.description
  parameters := s.asked.map fun p =>
    .titled p.name (if p.description = s.description then "" else p.description)

end Step

def Model.skeleton (m : Model) : Content where
  subject := Dictionary.get? "subject" m.info
  steps := (m.steps.filter Step.isShown).map Step.content

/-! ### As documents -/

namespace ContentEntry

def fields (e : ContentEntry) : List (String × String) :=
  [("key", e.key), ("title", e.title), ("text", e.text), ("hint", e.hint)]

def toJson (e : ContentEntry) : Json :=
  .object (e.fields.map fun (name, text) => (name, .string text))

def yamlFields (e : ContentEntry) : List (Yaml.Value × Yaml.Value) :=
  e.fields.map fun (name, text) => (.string name, .string text)

end ContentEntry

namespace ContentStep

/-- An entry as a record. Parameters are left out when there are none. -/
def toJson (s : ContentStep) : Json :=
  .object (s.entry.fields.map (fun (name, text) => (name, .string text)) ++
    if s.parameters.isEmpty then []
    else [("parameters", .array (s.parameters.map ContentEntry.toJson))])

def toYaml (s : ContentStep) : Yaml.Value :=
  .mapping (s.entry.yamlFields ++
    if s.parameters.isEmpty then []
    else [(.string "parameters", .sequence (s.parameters.map fun p => .mapping p.yamlFields))])

end ContentStep

namespace Content

/-- A content document as a record. The subject is left out when there is none. -/
def toJson (c : Content) : Json :=
  .object ((match c.subject with
    | some subject => [("subject", .string subject)]
    | none => []) ++ [("entries", .array (c.steps.map ContentStep.toJson))])

def toYaml (c : Content) : Yaml.Value :=
  .mapping ((match c.subject with
    | some subject => [(.string "subject", .string subject)]
    | none => []) ++ [(.string "entries", .sequence (c.steps.map ContentStep.toYaml))])

/-- The text of a content document. It holds no tags, so it has one. -/
def toText (c : Content) : String := c.toYaml.toText?.getD ""

end Content

end Questionnaire
