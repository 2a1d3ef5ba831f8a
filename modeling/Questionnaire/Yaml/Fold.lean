import Questionnaire.Yaml.Cursor

/-!
The gaps between the words of a scalar that spans several lines.

Blanks inside a line are kept. A single line break becomes a space, of several line breaks all but
the first are kept, and the blanks around them vanish.
-/

namespace Questionnaire.Yaml

/-- Blanks and line breaks between two words. -/
structure Gap where
  blanks : List Char
  broken : Bool
  first : List Char
  others : List Char
deriving DecidableEq, Repr, Inhabited

namespace Gap

def none : Gap := ⟨[], false, [], []⟩

/-- A gap after a line break that counts for nothing. -/
def escaped : Gap := ⟨[], true, [], []⟩

def fold (gap : Gap) : List Char :=
  if !gap.broken then gap.blanks
  else if gap.first.head? = some '\n' then
    if gap.others.isEmpty then [' '] else gap.others
  else gap.first ++ gap.others

/-- Reads a gap. `tabs` judges a tab met on a later line. -/
def read (tabs : Cursor → Except FormError Unit) : Nat → Gap → Cursor →
    Except FormError (Gap × Cursor)
  | 0, gap, c => .ok (gap, c)
  | fuel + 1, gap, c =>
    match c.rest with
    | [] => .ok (gap, c)
    | x :: _ =>
      if isBlank x then
        match (if gap.broken && x == '\t' then tabs c else .ok ()) with
        | .error e => .error e
        | .ok () =>
          let gap := if gap.broken then gap else { gap with blanks := gap.blanks ++ [x] }
          read tabs fuel gap (c.skip 1)
      else if isBreak x then
        let gap :=
          if gap.broken then { gap with others := gap.others ++ c.lineBreak }
          else ⟨[], true, c.lineBreak, []⟩
        read tabs fuel gap c.skipLine
      else .ok (gap, c)

end Gap

end Questionnaire.Yaml
