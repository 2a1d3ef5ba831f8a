import Questionnaire.Yaml.Fold
import Questionnaire.Yaml.Token

/-!
Reading scalars in single or double quotes.
-/

namespace Questionnaire.Yaml.QuotedScalar

def escape? (c : Char) : Option Char :=
  match c with
  | '0' => some '\x00'
  | 'a' => some '\x07'
  | 'b' => some '\x08'
  | 't' => some '\t'
  | '\t' => some '\t'
  | 'n' => some '\n'
  | 'v' => some '\x0b'
  | 'f' => some '\x0c'
  | 'r' => some '\r'
  | 'e' => some '\x1b'
  | ' ' => some ' '
  | '"' => some '"'
  | '/' => some '/'
  | '\\' => some '\\'
  | 'N' => some '\x85'
  | '_' => some '\xa0'
  | 'L' => some '\u2028'
  | 'P' => some '\u2029'
  | _ => none

def codeLength? (c : Char) : Option Nat :=
  match c with
  | 'x' => some 2
  | 'u' => some 4
  | 'U' => some 8
  | _ => none

def hexValue? (c : Char) : Option Nat :=
  if c.isDigit then some (c.toNat - 48)
  else if 'a' ≤ c ∧ c ≤ 'f' then some (c.toNat - 87)
  else if 'A' ≤ c ∧ c ≤ 'F' then some (c.toNat - 55)
  else none

def hexNumber? (count : Nat) (cs : List Char) : Option Nat :=
  let ds := cs.take count
  if ds.length < count then none
  else ds.foldlM (fun n c => (hexValue? c).map (n * 16 + ·)) 0

/-- Reads an escape; the cursor stands at its backslash. -/
def readEscape (start : Mark) (c : Cursor) : Except FormError (Char × Cursor) :=
  match c.rest with
  | _ :: letter :: _ =>
    match escape? letter, codeLength? letter with
    | some x, _ => .ok (x, c.skip 2)
    | none, some count =>
      let c := c.skip 2
      match hexNumber? count c.rest with
      | none => c.failIn .quotedEscape start .hexadecimal
      | some n =>
        if (0xD800 ≤ n ∧ n ≤ 0xDFFF) ∨ 0x10FFFF < n then
          c.failIn .quotedEscape start .badCodePoint
        else .ok (Char.ofNat n, c.skip count)
    | none, none => c.failIn .quotedEscape start .unknownEscape
  | _ => c.failIn .quotedEscape start .unknownEscape

/-- Reads a word up to a blank, a line break, the closing quote or the end; `done` is the word so
far in reverse. The result tells whether an escaped line break ended it. -/
def word (single : Bool) (start : Mark) :
    Nat → (done : List Char) → Cursor → Except FormError (List Char × Bool × Cursor)
  | 0, done, c => .ok (done.reverse, false, c)
  | fuel + 1, done, c =>
    match c.rest with
    | [] => .ok (done.reverse, false, c)
    | x :: rest =>
      if isBlank x || isBreak x then .ok (done.reverse, false, c)
      else if single then
        if x = '\'' then
          if startsWith '\'' rest then word single start fuel ('\'' :: done) (c.skip 2)
          else .ok (done.reverse, false, c)
        else word single start fuel (x :: done) (c.skip 1)
      else if x = '"' then .ok (done.reverse, false, c)
      else if x = '\\' then
        if atBreak rest then .ok (done.reverse, true, (c.skip 1).skipLine)
        else
          match readEscape start c with
          | .error e => .error e
          | .ok (y, c) => word single start fuel (y :: done) c
      else word single start fuel (x :: done) (c.skip 1)

def words (single : Bool) (start : Mark) :
    Nat → (content : List Char) → Cursor → Except FormError (List Char × Cursor)
  | 0, _, c => c.failIn .quotedScalar start .endOfStream
  | fuel + 1, content, c =>
    if c.atDocumentMarker then c.failIn .quotedScalar start .documentIndicator
    else if c.rest.isEmpty then c.failIn .quotedScalar start .endOfStream
    else
      match word single start (c.rest.length + 1) [] c with
      | .error e => .error e
      | .ok (w, escapedBreak, c) =>
        let content := content ++ w
        if startsWith (if single then '\'' else '"') c.rest then .ok (content, c.skip 1)
        else
          match Gap.read (fun _ => .ok ()) (c.rest.length + 1)
              (if escapedBreak then .escaped else .none) c with
          | .error e => .error e
          | .ok (gap, c) => words single start fuel (content ++ gap.fold) c

/-- Reads a quoted scalar; the cursor stands at its opening quote. -/
def scan (single : Bool) (c : Cursor) : Except FormError (Token × Cursor) :=
  (words single c.mark (c.rest.length + 2) [] (c.skip 1)).map fun (content, rest) =>
    (⟨.scalar (String.ofList content) (if single then .singleQuoted else .doubleQuoted), c.mark,
      rest.mark⟩, rest)

end Questionnaire.Yaml.QuotedScalar
