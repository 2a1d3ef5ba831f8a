import Questionnaire.Expression.Defect
import Questionnaire.Text.Alphabetic
import Questionnaire.Text.Blank
import Questionnaire.Text.Search

/-!
Splitting an expression into tokens.

`scan` reads the one token that a text begins with, its characters and the rest of the text; blanks
stand between tokens. Strings keep their characters with escapes resolved, numbers keep their
digits, and keywords are words like any other.
-/

namespace Questionnaire

namespace Token

/-- The digits that a text begins with, and the rest. -/
def spanDigits (cs : List Char) : List Char × List Char :=
  (cs.takeWhile Char.isDigit, cs.dropWhile Char.isDigit)

/-- The characters of a number: digits, and a point if a digit follows it. -/
def scanNumber (cs : List Char) : List Char × List Char :=
  let (whole, rest) := spanDigits cs
  match rest with
  | '.' :: d :: after =>
    if d.isDigit then
      let (places, rest) := spanDigits (d :: after)
      (whole ++ '.' :: places, rest)
    else (whole, rest)
  | _ => (whole, rest)

/-- The character that a backslash and `c` stand for. -/
def unescape (c : Char) : Char :=
  if c = 'n' then '\n' else if c = 't' then '\t' else c

/-- Reads a string up to its closing quote: its content, its characters and the rest. -/
def scanString (quote : Char) : List Char → Except ExprCause (List Char × List Char × List Char)
  | [] => .error .unterminatedString
  | [c] =>
    if c = quote then .ok ([], [c], [])
    else if c = '\\' then .error .unterminatedEscape
    else .error .unterminatedString
  | c :: d :: cs =>
    if c = quote then .ok ([], [c], d :: cs)
    else if c = '\\' then
      (scanString quote cs).map fun (content, raw, rest) =>
        (unescape d :: content, c :: d :: raw, rest)
    else
      (scanString quote (d :: cs)).map fun (content, raw, rest) => (c :: content, c :: raw, rest)

/-- The operator or mark that a text begins with, and whether it takes two characters. -/
def scanMark (c : Char) (next : Option Char) : Option (Token × Bool) :=
  match c with
  | '(' => some (leftParen, false)
  | ')' => some (rightParen, false)
  | ',' => some (comma, false)
  | '+' => some (plus, false)
  | '-' => some (minus, false)
  | '*' => some (star, false)
  | '/' => some (slash, false)
  | '=' => some (eq, next == some '=')
  | '!' => if next = some '=' then some (ne, true) else some (bang, false)
  | '<' =>
    if next = some '=' then some (le, true)
    else if next = some '>' then some (ne, true)
    else some (lt, false)
  | '>' => if next = some '=' then some (ge, true) else some (gt, false)
  | '&' => if next = some '&' then some (andAnd, true) else none
  | '|' => if next = some '|' then some (orOr, true) else none
  | _ => none

def startsWord (c : Char) : Bool := Text.isLetter c || c == '_'

def continuesWord (c : Char) : Bool := Text.isLetterOrDigit c || c == '_'

/-- Reads the token that a text begins with: the token, its characters and the rest. -/
def scan (c : Char) (cs : List Char) : Except ExprCause (Token × List Char × List Char) :=
  if c = '"' ∨ c = '\'' then
    (scanString c cs).map fun (content, raw, rest) =>
      (string (String.ofList content), c :: raw, rest)
  else if c.isDigit then
    let (digits, rest) := scanNumber (c :: cs)
    .ok (number (String.ofList digits), digits, rest)
  else
    match scanMark c cs.head? with
    | some (token, false) => .ok (token, [c], cs)
    | some (token, true) => .ok (token, c :: cs.take 1, cs.drop 1)
    | none =>
      if startsWord c then
        let letters := cs.takeWhile continuesWord
        .ok (word (String.ofList (c :: letters)), c :: letters, cs.dropWhile continuesWord)
      else .error (.unexpectedCharacter c)

end Token

structure LocatedToken where
  token : Token
  span : Span
deriving DecidableEq, Repr, Inhabited

namespace LocatedToken

/-- The span of a scanning error: a string that does not end reaches to the end of the text. -/
def errorSpan (cause : ExprCause) (offset : Nat) (c : Char) (length : Nat) : Span :=
  match cause with
  | .unexpectedCharacter _ => ⟨offset, offset + c.utf8Size⟩
  | _ => ⟨offset, length⟩

/-- Splits the rest of a text that starts at `offset` of `length` bytes. -/
def split (length : Nat) : (fuel offset : Nat) → List Char → Except ExprError (List LocatedToken)
  | 0, _, _ => .ok [⟨.eof, length, length⟩]
  | _ + 1, _, [] => .ok [⟨.eof, length, length⟩]
  | fuel + 1, offset, c :: cs =>
    if Text.isBlank c then split length fuel (offset + c.utf8Size) cs
    else
      match Token.scan c cs with
      | .error cause => .error ⟨cause, errorSpan cause offset c length⟩
      | .ok (token, raw, rest) =>
        let stop := offset + Text.byteLength raw
        (split length fuel stop rest).map fun tokens => ⟨token, offset, stop⟩ :: tokens

/-- The tokens of a text; the last is the end of the text. -/
def ofChars (cs : List Char) : Except ExprError (List LocatedToken) :=
  split (Text.byteLength cs) (cs.length + 1) 0 cs

def ofText (s : String) : Except ExprError (List LocatedToken) := ofChars s.toList

end LocatedToken

end Questionnaire
