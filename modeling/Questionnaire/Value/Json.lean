import Questionnaire.Json.Printer
import Questionnaire.Value.Inference

/-!
Values in JSON documents.
-/

namespace Questionnaire.Value

/-- The text of an item of a list: a string as it is, anything else as it is written. -/
def itemText : Json → String
  | .string s => s
  | j => j.toText

def ofJson : Json → Value
  | .null => unknown
  | .bool b => boolean b
  | .number n => ofNumberText n.toText
  | .string s => ofText s
  | .array items => ofItems (items.map itemText)
  | .object members => text (Json.object members).toText

/-- A value in a JSON document. Numbers are strings there, which keeps them exact. -/
def toJson : Value → Json
  | boolean b => .bool b
  | list first others => Json.ofStrings (first :: others)
  | unknown => .null
  | v => .string v.toText

end Questionnaire.Value
