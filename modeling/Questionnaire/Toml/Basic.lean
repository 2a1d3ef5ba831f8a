import Questionnaire.Shape.Mismatch
import Questionnaire.Binary64.Shortest
import Questionnaire.Source.Span
import Questionnaire.Text.Search

/-!
Settings files in TOML.

A settings file is flat: names with values. What stands inside of an array or a table is read for its
form alone.
-/

namespace Questionnaire.Toml

inductive Value
  | string (s : String)
  | integer (n : Int)
  | float (x : Binary64)
  | boolean (b : Bool)
  | dateTime
  | array
  | table
deriving DecidableEq, Inhabited

def Value.describe : Value → String
  | string s => Shape.stringFound s
  | integer n => Shape.integerFound n
  | float x => "floating point \x60" ++ x.plainText ++ "\x60"
  | boolean b => Shape.booleanFound b
  | array => "sequence"
  | dateTime | table => "map"

structure Entry where
  name : String
  nameSpan : Span
  value : Value
  valueSpan : Span
deriving DecidableEq, Inhabited

/-- The parts of a settings file that messages name. -/
inductive Part
  | key
  | tableHeader
  | string
  | basicString
  | longBasicString
  | literalString
  | longLiteralString
  | escapeSequence
  | integer
  | hexadecimal
  | octal
  | binary
  | float
  | array
  | inlineTable
deriving DecidableEq, Repr, Inhabited

def Part.name : Part → String
  | key => "key"
  | tableHeader => "table header"
  | string => "string"
  | basicString => "basic string"
  | longBasicString => "multiline basic string"
  | literalString => "literal string"
  | longLiteralString => "multiline literal string"
  | escapeSequence => "escape sequence"
  | integer => "integer"
  | hexadecimal => "hexadecimal integer"
  | octal => "octal integer"
  | binary => "binary integer"
  | float => "floating-point number"
  | array => "array"
  | inlineTable => "inline table"

/-- What could have stood at a place. -/
inductive Expectation
  | mark (s : String)
  | newline
  | digit
  | leadingDigit
deriving DecidableEq, Repr, Inhabited

def Expectation.describe : Expectation → String
  | mark s => "\x60" ++ s ++ "\x60"
  | newline => "newline"
  | digit => "digit"
  | leadingDigit => "leading digit"

/-- What is wrong with the form of a text: a part that is broken off where something else could have
stood, a number that does not fit, or a name that is given twice. -/
inductive Flaw
  | broken (part : Option Part) (expected : List Expectation)
  | numberTooLarge
  | numberTooSmall
  | duplicateKey (name : String)
deriving DecidableEq, Repr, Inhabited

namespace Flaw

def noEquals : Flaw := broken none [.mark ".", .mark "="]

def noValue : Flaw := broken (some .string) [.mark "\"", .mark "'"]

def noLineEnd (part : Option Part) : Flaw := broken part [.newline, .mark "#"]

def badEscape : Flaw :=
  broken (some .escapeSequence) (["b", "f", "n", "r", "t", "u", "U", "\\", "\""].map .mark)

def message : Flaw → String
  | broken part expected =>
    String.intercalate "\n" ((part.map fun p => "invalid " ++ p.name).toList ++
      if expected.isEmpty then []
      else ["expected " ++ String.intercalate ", " (expected.map Expectation.describe)])
  | numberTooLarge => "number too large to fit in target type"
  | numberTooSmall => "number too small to fit in target type"
  | duplicateKey name => "duplicate key \x60" ++ name ++ "\x60 in document root"

end Flaw

inductive Cause
  | form (flaw : Flaw)
  | shape (mismatch : Shape.Mismatch)
deriving DecidableEq, Repr, Inhabited

def Cause.message : Cause → String
  | form flaw => flaw.message
  | shape mismatch => mismatch.message

structure Error where
  cause : Cause
  span : Span
deriving DecidableEq, Repr, Inhabited

/-! ### Reports -/

/-- A line of a text with its number, and how far into it an offset is, in characters. Lines count from
1. -/
def lineAt : (offset : Nat) → (line : Nat) → List (List Char) → Nat × List Char × Nat
  | _, line, [] => (line, [], 0)
  | offset, line, [cs] =>
    (line, cs, match Text.takeBytes? offset cs with
      | some before => before.length
      | none => cs.length + (offset - Text.byteLength cs))
  | offset, line, cs :: rest =>
    let length := Text.byteLength cs
    if offset ≤ length then
      (line, cs, ((Text.takeBytes? offset cs).map List.length).getD cs.length)
    else lineAt (offset - length - 1) (line + 1) rest

/-- The line of an offset. The end of a text that ends with a line break belongs to its last line. -/
def place (text : List Char) (offset : Nat) : Nat × List Char × Nat :=
  let lines := Text.splitAll '\n' text
  let lines := match lines.reverse with
    | [] :: last :: others => (last :: others).reverse
    | _ => lines
  lineAt offset 1 lines

/-- An error with the line it is in and marks below the part that shows it. -/
def Error.toText (text : String) (e : Error) : String :=
  let (line, content, column) := place text.toList e.span.start
  let number := toString line
  let gutter := String.ofList (List.replicate (number.length + 1) ' ')
  let marks := min (e.span.stop - e.span.start) (Text.byteLength content - column)
  "TOML parse error at line " ++ number ++ ", column " ++ toString (column + 1) ++ "\n" ++
    gutter ++ "|\n" ++
    number ++ " | " ++ String.ofList content ++ "\n" ++
    gutter ++ "|" ++ String.ofList (List.replicate (column + 1) ' ') ++
    String.ofList (List.replicate (max 1 marks) '^') ++ "\n" ++
    e.cause.message ++ "\n"

end Questionnaire.Toml
