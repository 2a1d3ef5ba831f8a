import Questionnaire.Value.Basic
import Questionnaire.Text.Blank

/-!
The value that an answer text stands for.

The text is tried as a truth word, a number, a moment, a period and a span, in this order; whatever
is none of these is kept as it is written. Inference never fails.
-/

namespace Questionnaire

/-- Reads a number that holds nothing but digits, signs, points and commas. Without a point, the
first comma is the decimal point. -/
def Decimal.readPlainText? (cs : List Char) : Option Decimal :=
  let cs := Text.trim cs
  match cs with
  | [] => none
  | first :: _ =>
    if !(first.isDigit || first == '-' || first == '+' || first == '.') then none
    else if !cs.all fun c => c.isDigit || c == '-' || c == '+' || c == '.' || c == ',' then none
    else
      let cs := if cs.contains ',' && !cs.contains '.' then Text.replaceFirst ',' '.' cs else cs
      let cs := match cs with
        | '+' :: rest => rest
        | cs => cs
      (Decimal.read cs).toOption

/-- Reads two moments in order with a slash between them. -/
def Period.read? (cs : List Char) : Option Period := do
  let (left, right) ← Text.splitOnce? '/' cs
  let start ← Moment.read? (Text.trim left)
  let finish ← Moment.read? (Text.trim right)
  Period.ofMoments? start finish

namespace Value

def trueWords : List String := ["ja", "true", "yes"]

def falseWords : List String := ["nee", "false", "no"]

def readBoolean? (cs : List Char) : Option Bool :=
  let word := String.ofList (cs.map Char.toLower)
  if trueWords.contains word then some true
  else if falseWords.contains word then some false
  else none

/-- The value that is more than a text, if the characters spell one. -/
def read? (cs : List Char) : Option Value :=
  (readBoolean? cs).map boolean <|> (Decimal.readPlainText? cs).map number <|>
    (Moment.read? cs).map moment <|> (Period.read? cs).map period <|>
    (TimeSpan.read? cs).map timeSpan

def ofText (s : String) : Value := (read? (Text.trim s.toList)).getD (text s)

/-- A number as its text in a document says: plain, with an exponent, or else as a text. -/
def ofNumberText (s : String) : Value :=
  match Decimal.readPlainText? s.toList with
  | some d => number d
  | none =>
    match Decimal.read s.toList with
    | .ok d => number d
    | .error _ => text s

end Value

end Questionnaire
