/-!
The types of answers.
-/

namespace Questionnaire

/-- The closed set of answer types. `unknown` is the type of an absent answer. -/
inductive AnswerType
  | boolean
  | number
  | text
  | moment
  | timeSpan
  | period
  | list
  | unknown
deriving DecidableEq, Repr, Inhabited

namespace AnswerType

def all : List AnswerType := [boolean, number, text, moment, timeSpan, period, list, unknown]

def name : AnswerType → String
  | boolean => "Boolean"
  | number => "Double"
  | text => "String"
  | moment => "DateTime"
  | timeSpan => "TimeSpan"
  | period => "Period"
  | list => "List"
  | unknown => "Unknown"

/-- Other names under which a type may be declared. -/
def aliases : AnswerType → List String
  | boolean => ["bool", "boolean"]
  | number => ["double", "number"]
  | text => ["string", "text"]
  | moment => ["date", "datetime"]
  | timeSpan => ["duration", "timespan"]
  | period => ["period"]
  | list => ["list"]
  | unknown => ["unknown"]

def spellings (t : AnswerType) : List String := t.name :: t.aliases

def ofName? (s : String) : Option AnswerType := all.find? fun t => t.spellings.contains s

/-- Every spelling of every type, as a message lists them. -/
def allSpellings : List String := all.flatMap spellings

end AnswerType

end Questionnaire
