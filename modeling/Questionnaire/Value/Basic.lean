import Questionnaire.AnswerType
import Questionnaire.Calendar.Text

/-!
Answer values.

A value carries the data of one answer type, so its type can be read off it. A list is never empty:
an empty list of answers is an absent answer.
-/

namespace Questionnaire

/-- A stretch of time whose start is not after its end. -/
structure Period where
  start : Moment
  finish : Moment
  ordered : start.compare finish ≠ .gt
deriving DecidableEq

inductive Value
  | boolean (b : Bool)
  | number (d : Decimal)
  | text (s : String)
  | moment (m : Moment)
  | timeSpan (t : TimeSpan)
  | period (p : Period)
  | list (first : String) (others : List String)
  | unknown
deriving DecidableEq, Inhabited

namespace Period

def ofMoments? (start finish : Moment) : Option Period :=
  if h : start.compare finish ≠ .gt then some ⟨start, finish, h⟩ else none

def chars (p : Period) : List Char := p.start.chars ++ '/' :: p.finish.chars

end Period

namespace Value

def type : Value → AnswerType
  | boolean _ => .boolean
  | number _ => .number
  | text _ => .text
  | moment _ => .moment
  | timeSpan _ => .timeSpan
  | period _ => .period
  | list .. => .list
  | unknown => .unknown

def isUnknown : Value → Bool
  | unknown => true
  | _ => false

/-- The list of these items; absent when there are none. -/
def ofItems : List String → Value
  | [] => unknown
  | first :: others => list first others

def items : Value → List String
  | list first others => first :: others
  | _ => []

/-- Whether two values are the same answer: numbers are compared as numbers. -/
def same : Value → Value → Bool
  | number a, number b => a.same b
  | a, b => a == b

def booleanText (b : Bool) : String := if b then "true" else "false"

def toText : Value → String
  | boolean b => booleanText b
  | number d => d.normalize.toText
  | text s => s
  | moment m => String.ofList m.chars
  | timeSpan t => String.ofList t.chars
  | period p => String.ofList p.chars
  | list first others => String.intercalate ", " (first :: others)
  | unknown => ""

@[simp] theorem items_ofItems (xs : List String) : (ofItems xs).items = xs := by
  cases xs <;> rfl

theorem isUnknown_iff {v : Value} : v.isUnknown = true ↔ v.type = .unknown := by
  cases v <;> simp [isUnknown, type]

end Value

end Questionnaire
