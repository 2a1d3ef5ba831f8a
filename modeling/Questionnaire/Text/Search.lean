/-!
Cutting texts at a first occurrence, and measuring them in UTF-8 bytes.

`indexOf?` counts characters; `byteLength` turns a number of characters into an offset in bytes,
which is what positions in a script are reported in.
-/

namespace Questionnaire.Text

/-- What follows `start` when the text begins with it. -/
def strip? : List Char → List Char → Option (List Char)
  | [], cs => some cs
  | _ :: _, [] => none
  | p :: ps, c :: cs => if p = c then strip? ps cs else none

def splitAt? (needle : List Char) : List Char → Option (List Char × List Char)
  | [] => (strip? needle []).map fun rest => ([], rest)
  | c :: cs =>
    match strip? needle (c :: cs) with
    | some rest => some ([], rest)
    | none => (splitAt? needle cs).map fun (before, rest) => (c :: before, rest)

def splitOnce? (sep : Char) : List Char → Option (List Char × List Char)
  | [] => none
  | c :: cs => if c = sep then some ([], cs) else
      (splitOnce? sep cs).map fun (before, rest) => (c :: before, rest)

/-- All parts between occurrences of a character; never empty. -/
def splitAll (sep : Char) : List Char → List (List Char)
  | [] => [[]]
  | c :: cs =>
    if c = sep then [] :: splitAll sep cs else
      match splitAll sep cs with
      | [] => [[c]]
      | part :: parts => (c :: part) :: parts

def replaceFirst (old new : Char) : List Char → List Char
  | [] => []
  | c :: cs => if c = old then new :: cs else c :: replaceFirst old new cs

/-- Number of bytes of the UTF-8 form. -/
def byteLength : List Char → Nat
  | [] => 0
  | c :: cs => c.utf8Size + byteLength cs

/-- What is left after exactly `n` bytes; nothing when `n` falls inside a character or past the end. -/
def dropBytes? : Nat → List Char → Option (List Char)
  | 0, cs => some cs
  | _ + 1, [] => none
  | n + 1, c :: cs => if c.utf8Size ≤ n + 1 then dropBytes? (n + 1 - c.utf8Size) cs else none

/-- The characters that make up exactly the first `n` bytes. -/
def takeBytes? : Nat → List Char → Option (List Char)
  | 0, _ => some []
  | _ + 1, [] => none
  | n + 1, c :: cs =>
    if c.utf8Size ≤ n + 1 then (takeBytes? (n + 1 - c.utf8Size) cs).map (c :: ·) else none

@[simp] theorem byteLength_nil : byteLength [] = 0 := rfl

@[simp] theorem byteLength_cons (c : Char) (cs : List Char) :
    byteLength (c :: cs) = c.utf8Size + byteLength cs := rfl

theorem byteLength_append (a b : List Char) : byteLength (a ++ b) = byteLength a + byteLength b := by
  induction a with
  | nil => simp
  | cons c a ih => simp [ih, Nat.add_assoc]

theorem strip?_append (p cs : List Char) : strip? p (p ++ cs) = some cs := by
  induction p with
  | nil => rfl
  | cons c p ih => simpa [strip?] using ih

theorem eq_append_of_strip? {p cs rest : List Char} (h : strip? p cs = some rest) :
    cs = p ++ rest := by
  induction p generalizing cs with
  | nil => simpa [strip?] using h
  | cons c p ih =>
    cases cs with
    | nil => simp [strip?] at h
    | cons d cs =>
      by_cases hcd : c = d
      · subst hcd
        simp only [strip?, ite_true] at h
        simp [ih h]
      · simp [strip?, hcd] at h

end Questionnaire.Text
