import Questionnaire.Source.Span
import Questionnaire.Text.Blank
import Questionnaire.Text.Search

/-!
Positions in the text of a script.

An offset counts bytes from 0. A position also has the line and the column of an offset; both count
from 1, and a column counts characters. A newline is the last character of its line. The line of an
offset is looked up among the offsets at which lines begin.
-/

namespace Questionnaire

structure Position where
  line : Nat
  column : Nat
  index : Nat
deriving DecidableEq, Repr, Inhabited

structure Range where
  start : Position
  finish : Position
deriving DecidableEq, Repr, Inhabited

/-- Where a number stands in numbers that ascend, or where it would have to be put in. -/
inductive Slot
  | found (index : Nat)
  | missing (index : Nat)
deriving DecidableEq, Repr, Inhabited

namespace Slot

def middle (low high : Nat) : Nat := low + (high - low) / 2

theorem le_middle (low high : Nat) : low ≤ middle low high := Nat.le_add_right _ _

theorem middle_lt {low high : Nat} (room : low < high) : middle low high < high := by
  unfold middle
  omega

/-- Looks for a number by halves, from the index `low` on and before `high`. -/
def search (numbers : Array Nat) (n low high : Nat) : Slot :=
  if low < high then
    match compare (numbers[middle low high]?.getD 0) n with
    | .lt => search numbers n (middle low high + 1) high
    | .eq => found (middle low high)
    | .gt => search numbers n low (middle low high)
  else missing low
termination_by high - low
decreasing_by
  · have first := le_middle low high
    omega
  · have second := middle_lt ‹low < high›
    omega

/-- The index of the last number that is not above the one that was looked for. -/
def last : Slot → Nat
  | found index => index
  | missing index => index - 1

end Slot

structure Source where
  chars : List Char
deriving DecidableEq, Repr, Inhabited

namespace Source

def ofText (s : String) : Source := ⟨s.toList⟩

def size (s : Source) : Nat := Text.byteLength s.chars

/-! ### Lines -/

def numberLines (offset : Nat) : List (List Char) → List (Nat × List Char)
  | [] => []
  | line :: lines => (offset, line) :: numberLines (offset + Text.byteLength line + 1) lines

def lines (s : Source) : List (Nat × List Char) := numberLines 0 (Text.splitAll '\n' s.chars)

def lineStarts (s : Source) : Array Nat := (s.lines.map (·.1)).toArray

/-! ### Positions -/

/-- The position of an offset, from the start of its line on. Behind the end is the end; inside a
character the column is unknown, and 1 stands in for it. -/
def position (s : Source) (offset : Nat) : Position :=
  let offset := min offset s.size
  let starts := s.lineStarts
  let line := (Slot.search starts offset 0 starts.size).last
  let start := starts[line]?.getD 0
  let shown := (Text.dropBytes? start s.chars).bind (Text.takeBytes? (offset - start))
  ⟨line + 1, (shown.map List.length).getD 0 + 1, offset⟩

def range (s : Source) (offset length : Nat) : Range :=
  ⟨s.position offset, s.position (offset + length)⟩

def lineEnd (s : Source) (offset : Nat) : Nat :=
  match Text.dropBytes? offset s.chars with
  | some rest => offset + Text.byteLength (rest.takeWhile (· ≠ '\n'))
  | none => s.size

def lineRange (s : Source) (offset : Nat) : Range :=
  ⟨s.position offset, s.position (s.lineEnd (min offset s.size))⟩

/-! ### Searching -/

/-- Where a text comes up first, at an offset or after it. -/
def find? (s : Source) (needle : String) (start : Nat) : Option Nat := do
  let start := min start s.size
  let rest ← Text.dropBytes? start s.chars
  let (before, _) ← Text.splitAt? needle.toList rest
  return start + Text.byteLength before

/-- A line from its first entry on: without blanks and dashes in front. -/
def skipDashes : List Char → List Char
  | [] => []
  | c :: cs =>
    if Text.isBlank c || (c == '-' && cs.head? == some ' ') then skipDashes cs else c :: cs

def isQuote (c : Char) : Bool := c == '"' || c == '\''

def unquote (cs : List Char) : List Char :=
  ((cs.dropWhile isQuote).reverse.dropWhile isQuote).reverse

/-- Where the first line that begins with a key and a value has the key, among the lines that begin
at an offset or after it. The entry may be the first of an item, and the value may stand in quotes. -/
def locate? (s : Source) (key value : String) (start : Nat) : Option Nat :=
  (s.lines.filter (start ≤ ·.1)).findSome? fun (offset, line) => do
    let entry := skipDashes line
    let rest ← Text.strip? (key.toList ++ [':']) entry
    if unquote (Text.trim rest) = value.toList then
      some (offset + (Text.byteLength line - Text.byteLength entry))
    else none

def locateStep? (s : Source) (id : String) : Option Nat := s.locate? "id" id 0

end Source

end Questionnaire
