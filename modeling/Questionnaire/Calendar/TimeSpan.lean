/-!
Spans of time, counted in whole seconds of 64 bits.
-/

namespace Questionnaire

structure TimeSpan where
  seconds : Int
  lower : -9223372036854775808 ≤ seconds
  upper : seconds < 9223372036854775808
deriving DecidableEq

namespace TimeSpan

def ofSeconds? (n : Int) : Option TimeSpan :=
  if h : -9223372036854775808 ≤ n ∧ n < 9223372036854775808 then some ⟨n, h.1, h.2⟩ else none

def add? (a b : TimeSpan) : Option TimeSpan := ofSeconds? (a.seconds + b.seconds)

def sub? (a b : TimeSpan) : Option TimeSpan := ofSeconds? (a.seconds - b.seconds)

/-- The opposite of a span. The least one has none, as its count would not fit: negating it is an error of
range here, and not an overflow that stops the program. -/
def neg? (a : TimeSpan) : Option TimeSpan := ofSeconds? (-a.seconds)

def compare (a b : TimeSpan) : Ordering := Ord.compare a.seconds b.seconds

end TimeSpan

end Questionnaire
