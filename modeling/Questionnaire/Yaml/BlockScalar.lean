import Questionnaire.Yaml.Cursor
import Questionnaire.Yaml.Token

/-!
Reading literal and folded blocks.
-/

namespace Questionnaire.Yaml.BlockScalar

/-- What becomes of the line breaks at the end of a block. -/
inductive Chomping
  | strip
  | clip
  | keep
deriving DecidableEq, Repr, Inhabited

def chomping? (c : Char) : Option Chomping :=
  if c = '+' then some .keep else if c = '-' then some .strip else none

def readIncrement (start : Mark) (c : Cursor) : Except FormError (Nat × Cursor) :=
  match c.rest with
  | x :: _ =>
    if x = '0' then c.failIn .blockScalar start .zeroIndentation
    else if x.isDigit then .ok (x.toNat - 48, c.skip 1)
    else .ok (0, c)
  | [] => .ok (0, c)

/-- Reads chomping and indentation, in either order; an indentation of zero is none. -/
def readHeader (start : Mark) (c : Cursor) : Except FormError (Chomping × Nat × Cursor) :=
  match c.rest.head?.bind chomping? with
  | some chomping => (readIncrement start (c.skip 1)).map fun (n, c) => (chomping, n, c)
  | none =>
    (readIncrement start c).map fun (n, c) =>
      match (if n = 0 then none else c.rest.head?.bind chomping?) with
      | some chomping => (chomping, n, c.skip 1)
      | none => (.clip, n, c)

/-- Reads indentation and empty lines. An indentation of zero is yet to be found: it is then the
widest one met. The result holds the line breaks, the widest indentation and the end of the last
line break. -/
def readBreaks (start : Mark) (indent : Nat) :
    Nat → (breaks : List Char) → (widest : Nat) → (stop : Mark) → Cursor →
      Except FormError (List Char × Nat × Mark × Cursor)
  | 0, breaks, widest, stop, c => .ok (breaks, widest, stop, c)
  | fuel + 1, breaks, widest, stop, c =>
    let spaces := (c.rest.takeWhile (· == ' ')).length
    let c := c.skip (if indent = 0 then spaces else min spaces (indent - c.mark.column))
    let widest := max widest c.mark.column
    if (indent == 0 || decide (c.mark.column < indent)) && startsWith '\t' c.rest then
      c.failIn .blockScalar start .tabInIndentation
    else if atBreak c.rest then
      let next := c.skipLine
      readBreaks start indent fuel (breaks ++ c.lineBreak) widest next.mark next
    else .ok (breaks, widest, stop, c)

/-- Reads the lines of a block. `first` is the line break after the line before, `breaks` are those
of the empty lines that follow it. -/
def readLines (literal : Bool) (start : Mark) (indent : Nat) :
    Nat → (content first breaks : List Char) → (leadingBlank : Bool) → (stop : Mark) → Cursor →
      Except FormError (List Char × List Char × List Char × Mark × Cursor)
  | 0, content, first, breaks, _, stop, c => .ok (content, first, breaks, stop, c)
  | fuel + 1, content, first, breaks, leadingBlank, stop, c =>
    if c.mark.column != indent || c.rest.isEmpty then .ok (content, first, breaks, stop, c)
    else
      let blank := atBlank c.rest
      let joint :=
        if !literal && first.head? == some '\n' && !leadingBlank && !blank then
          if breaks.isEmpty then [' '] else breaks
        else first ++ breaks
      let line := c.rest.takeWhile fun x => !isBreak x
      let ended := c.skip line.length
      let next := ended.skipLine
      match readBreaks start indent (next.rest.length + 1) [] 0 next.mark next with
      | .error e => .error e
      | .ok (breaks, _, stop, c) =>
        readLines literal start indent fuel (content ++ joint ++ line) ended.lineBreak breaks blank
          stop c

/-- Reads a block; the cursor stands at its indicator. `parent` is the indentation around it, if
there is one. -/
def scan (literal : Bool) (parent : Option Nat) (c : Cursor) :
    Except FormError (Token × Cursor) := do
  let start := c.mark
  let (chomping, increment, c) ← readHeader start (c.skip 1)
  let c := c.skipBlanks
  let c := if startsWith '#' c.rest then c.skipToBreak else c
  if !atBreakOrEnd c.rest then c.failIn .blockScalar start .commentOrLineBreak
  let c := c.skipLine
  let given := if increment = 0 then 0 else parent.getD 0 + increment
  let (breaks, widest, stop, c) ← readBreaks start given (c.rest.length + 1) [] 0 c.mark c
  let least := match parent with
    | some n => n + 1
    | none => 1
  let indent := if given = 0 then max widest least else given
  let (content, first, breaks, stop, c) ←
    readLines literal start indent (c.rest.length + 1) [] [] breaks false stop c
  let ending := match chomping with
    | .strip => []
    | .clip => first
    | .keep => first ++ breaks
  return (⟨.scalar (String.ofList (content ++ ending)) (if literal then .literal else .folded),
    start, stop⟩, c)

end Questionnaire.Yaml.BlockScalar
