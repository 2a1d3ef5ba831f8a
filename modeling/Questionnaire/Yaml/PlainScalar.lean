import Questionnaire.Yaml.Fold
import Questionnaire.Yaml.Token

/-!
Reading scalars without quotes.
-/

namespace Questionnaire.Yaml.PlainScalar

def isFlowIndicator (c : Char) : Bool :=
  c == ',' || c == '[' || c == ']' || c == '\x7b' || c == '\x7d'

/-- How a word of a plain scalar ends: at an end, or at a colon that may not stand there. -/
def word (flow : Bool) : List Char → List Char × Bool
  | [] => ([], true)
  | c :: cs =>
    if isBlank c || isBreak c then ([], true)
    else if flow && c == ':' && cs.head?.any fun d => isFlowIndicator d || d == '?' then ([], false)
    else if c == ':' && atBlankOrEnd cs then ([], true)
    else if flow && isFlowIndicator c then ([], true)
    else
      let (more, ended) := word flow cs
      (c :: more, ended)

/-- Reads words and the gaps between them. The result tells the place after the last word and
whether a line break follows it. -/
def words (flow : Bool) (indent : Nat) (start : Mark) :
    Nat → (content : List Char) → Gap → (stop : Mark) → Cursor →
      Except FormError (List Char × Mark × Bool × Cursor)
  | 0, content, gap, stop, c => .ok (content, stop, gap.broken, c)
  | fuel + 1, content, gap, stop, c =>
    if c.atDocumentMarker || startsWith '#' c.rest then .ok (content, stop, gap.broken, c)
    else
      match word flow c.rest with
      | (w, false) => (c.skip w.length).failIn .plainScalar start .unexpectedColon
      | ([], true) => .ok (content, stop, gap.broken, c)
      | (w, true) =>
        let content := content ++ gap.fold ++ w
        let c := c.skip w.length
        let stop := c.mark
        if !(atBlank c.rest || atBreak c.rest) then .ok (content, stop, false, c)
        else
          let tabs (here : Cursor) : Except FormError Unit :=
            if here.mark.column < indent then
              here.failIn .plainScalar start .tabViolatesIndentation
            else .ok ()
          match Gap.read tabs (c.rest.length + 1) .none c with
          | .error e => .error e
          | .ok (gap, c) =>
            if !flow && decide (c.mark.column < indent) then .ok (content, stop, gap.broken, c)
            else words flow indent start fuel content gap stop c

/-- Reads a plain scalar whose lines are indented by at least `indent`. The result tells whether it
ended after a line break. -/
def scan (flow : Bool) (indent : Nat) (c : Cursor) : Except FormError (Token × Bool × Cursor) :=
  (words flow indent c.mark (c.rest.length + 1) [] .none c.mark c).map
    fun (content, stop, broken, rest) =>
      (⟨.scalar (String.ofList content) .plain, c.mark, stop⟩, broken, rest)

end Questionnaire.Yaml.PlainScalar
