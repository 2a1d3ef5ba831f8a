import Questionnaire.Text.Search
import Questionnaire.Yaml.Problem

/-!
A place in a YAML text together with the characters after it.
-/

namespace Questionnaire.Yaml

def isBreak (c : Char) : Bool :=
  c == '\n' || c == '\r' || c == '\x85' || c == '\u2028' || c == '\u2029'

def isBlank (c : Char) : Bool := c == ' ' || c == '\t'

def isNameChar (c : Char) : Bool := c.isAlphanum || c == '_' || c == '-'

def atBlankOrEnd : List Char → Bool
  | [] => true
  | c :: _ => isBlank c || isBreak c

def atBreakOrEnd : List Char → Bool
  | [] => true
  | c :: _ => isBreak c

def atBlank : List Char → Bool
  | [] => false
  | c :: _ => isBlank c

def atBreak : List Char → Bool
  | [] => false
  | c :: _ => isBreak c

def startsWith (c : Char) (cs : List Char) : Bool := cs.head? == some c

/-- The characters that are left and the place of the first of them. -/
structure Cursor where
  rest : List Char
  mark : Mark
deriving DecidableEq, Repr, Inhabited

namespace Cursor

/-- Moves over `n` characters of a line. -/
def skip (c : Cursor) (n : Nat) : Cursor :=
  ⟨c.rest.drop n, { c.mark with
    index := c.mark.index + Text.byteLength (c.rest.take n)
    column := c.mark.column + n }⟩

def skipWhile (p : Char → Bool) (c : Cursor) : Cursor := c.skip (c.rest.takeWhile p).length

/-- Moves over the rest of a line, the line break excepted. -/
def skipToBreak (c : Cursor) : Cursor := c.skipWhile fun x => !isBreak x

def skipBlanks (c : Cursor) : Cursor := c.skipWhile isBlank

def skipLine (c : Cursor) : Cursor :=
  match c.rest with
  | '\r' :: '\n' :: rest => ⟨rest, ⟨c.mark.index + 2, c.mark.line + 1, 0⟩⟩
  | x :: rest =>
    if isBreak x then ⟨rest, ⟨c.mark.index + x.utf8Size, c.mark.line + 1, 0⟩⟩ else c
  | [] => c

/-- The characters that the line break here stands for. -/
def lineBreak (c : Cursor) : List Char :=
  match c.rest with
  | x :: _ =>
    if x = '\u2028' ∨ x = '\u2029' then [x] else if isBreak x then ['\n'] else []
  | [] => []

/-- Whether a document marker stands here, in the first column. -/
def atDocumentMarker (c : Cursor) : Bool :=
  c.mark.column == 0 &&
    match c.rest with
    | '-' :: '-' :: '-' :: rest => atBlankOrEnd rest
    | '.' :: '.' :: '.' :: rest => atBlankOrEnd rest
    | _ => false

def fail {α : Type} (c : Cursor) (problem : Problem) (context : Option (Context × Mark)) :
    Except FormError α :=
  .error ⟨problem, c.mark, context, 0⟩

/-- A problem at this place, met while reading something that began at `since`. -/
def failIn {α : Type} (c : Cursor) (context : Context) (since : Mark) (problem : Problem) :
    Except FormError α :=
  c.fail problem (some (context, since))

end Cursor

end Questionnaire.Yaml
