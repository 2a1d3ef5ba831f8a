/-!
Stretches of a text, as offsets in bytes.
-/

namespace Questionnaire

/-- The bytes from `start` up to, and without, `stop`. -/
structure Span where
  start : Nat
  stop : Nat
deriving DecidableEq, Repr, Inhabited

def Span.join (a b : Span) : Span := ⟨min a.start b.start, max a.stop b.stop⟩

end Questionnaire
