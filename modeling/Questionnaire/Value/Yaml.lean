import Questionnaire.Value.Inference
import Questionnaire.Yaml.Printer

/-!
Answer values in YAML documents.
-/

namespace Questionnaire

namespace Yaml.Value

/-- The text of a scalar as it is written in a document; a collection has none. -/
def scalarText? : Value → Option String
  | string s => some s
  | bool b => some (Questionnaire.Value.booleanText b)
  | tagged _ value => scalarText? value
  | value => value.numberText?

def trimmedText (value : Value) : String :=
  String.ofList (Text.trimRight (value.toText?.getD "").toList)

/-- A label for a value: the text of a scalar, or a collection as it is written. -/
def label (value : Value) : String := value.scalarText?.getD value.trimmedText

end Yaml.Value

/-- The value of an answer in a YAML document. Items of a list that are no scalars are left out. -/
def Value.ofYaml : Yaml.Value → Value
  | .null => unknown
  | .bool b => boolean b
  | .integer n => ofNumberText (toString n)
  | .float x => ofNumberText x.yamlText
  | .string s => ofText s
  | .sequence items => ofItems (items.filterMap Yaml.Value.scalarText?)
  | .mapping entries => text (Yaml.Value.mapping entries).trimmedText
  | .tagged _ value => ofYaml value

end Questionnaire
